import ShortLink.Bytes
import ShortLink.Fault
import ShortLink.Feistel.Word
import ShortLink.Feistel.Stream
import ShortLink.Feistel.Workers
import ShortLink.Radix62.Code
import ShortLink.TimedId.Generator
import ShortLink.Crypto.Gcm
import ShortLink.Settings.Variables
import ShortLink.Token.TenantCodec
import ShortLink.Token.Sealed
import ShortLink.Url.Origin
import ShortLink.Link.Service
import ShortLink.Proofs.Bytes.Positional
import ShortLink.Proofs.Bytes.Text
import ShortLink.Proofs.Bytes.Word
import ShortLink.Proofs.Bytes.Xor
import ShortLink.Proofs.Radix62.Numeral
import ShortLink.Proofs.Radix62.Text
import ShortLink.Proofs.Radix62.Long
import ShortLink.Proofs.Radix62.Bijection
import ShortLink.Proofs.Radix62.Refusal
import ShortLink.Proofs.Radix62.Word
import ShortLink.Proofs.Radix62.Threshold
import ShortLink.Proofs.Deflate.Extension
import ShortLink.Proofs.Deflate.Stored
import ShortLink.Proofs.Zlib
import ShortLink.Proofs.Feistel.Inverse
import ShortLink.Proofs.Feistel.Word
import ShortLink.Proofs.Feistel.Column
import ShortLink.Proofs.Feistel.KeyDifference
import ShortLink.Proofs.Feistel.Workers
import ShortLink.Proofs.Crypto.Gcm
import ShortLink.Proofs.TimedId.Fields
import ShortLink.Proofs.TimedId.Fleet
import ShortLink.Proofs.Token.Envelope
import ShortLink.Proofs.Token.Payload
import ShortLink.Proofs.Token.Sealed
import ShortLink.Proofs.Token.Authenticity
import ShortLink.Proofs.Token.Isolation
import ShortLink.Proofs.Token.Rotation
import ShortLink.Proofs.Link.Relative
import ShortLink.Proofs.Link.Step
import ShortLink.Proofs.Link.Run
import ShortLink.Proofs.Link.Transparency
import ShortLink.Proofs.Link.Course
import ShortLink.Proofs.TimedId.Waiting
import ShortLink.Proofs.Token.Id
import ShortLink.Proofs.Link.Issuing
import ShortLink.Proofs.Link.Outage
import ShortLink.Proofs.Link.Foreign
import ShortLink.Proofs.Token.Verdict
import ShortLink.Proofs.Checked.Conversion
import ShortLink.Proofs.Checked.Pipeline
import ShortLink.Proofs.Feistel.WordKey
import ShortLink.Proofs.Token.IdIsolation
import ShortLink.Proofs.Radix62.WordBytes
import ShortLink.Proofs.TimedId.Attempts
import ShortLink.Proofs.TimedId.ClosedForm
import ShortLink.Proofs.TimedId.SteadyClock
import ShortLink.Proofs.TimedId.Overflow
import ShortLink.Proofs.Link.CacheHistory
import ShortLink.Proofs.Settings.Variables
import ShortLink.Proofs.Settings.Loading
import ShortLink.Proofs.Settings.Redaction
import ShortLink.Proofs.Settings.Validity
import ShortLink.Proofs.Link.Exchange
import ShortLink.Proofs.Link.Conduct
import ShortLink.Proofs.Feistel.Columnwise
