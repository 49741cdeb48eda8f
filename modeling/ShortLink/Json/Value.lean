import ShortLink.Json.Token

/-!
# JSON values

Reading goes through the tokens once, with the containers that are still open on a stack, so that
nesting may be as deep as the text is long.

## Main definitions

- `Json.Value` — a value
- `Json.Reader` — what has been read so far and what may come next
- `Json.Value.ofText?` — the value that a text is
- `Json.quote`, `Json.writeObject` — the shortest written form of strings and objects
-/

namespace ShortLink.Json

/-- A JSON value. Numbers have a value when they are integers, strings and member names when all of
their characters exist. -/
inductive Value where
  | null
  | boolean (value : Bool)
  | number (value : Option Int)
  | string (value : Option String)
  | array (items : List Value)
  | object (members : List (Option String × Value))

/-- The members of an object. -/
abbrev Members := List (Option String × Value)

/-- A container that is still open, with its contents so far in reverse. -/
inductive Container where
  | array (items : List Value)
  | object (members : Members)

/-- The place of a value in the container around it. -/
inductive Place where
  /-- Behind the items so far, in reverse. -/
  | item (items : List Value)
  /-- Under a name, behind the members so far, in reverse. -/
  | member (members : Members) (name : Option String)

/-- What has been read so far and what may come next, within the given places, innermost first. -/
inductive Reader where
  /-- A value. -/
  | value (outer : List Place)
  /-- The first element of an array, or its end. -/
  | element (outer : List Place)
  /-- The name of a member, or the end of an object that is empty so far. -/
  | key (members : Members) (outer : List Place)
  /-- The colon after the name of a member. -/
  | colon (members : Members) (name : Option String) (outer : List Place)
  /-- A comma, or the end of a container. -/
  | separator (container : Container) (outer : List Place)
  /-- Nothing. -/
  | finished (value : Value)

namespace Reader

/-- The reader after a whole value. -/
def accept (value : Value) : List Place → Reader
  | [] => finished value
  | .member members name :: outer => separator (.object ((name, value) :: members)) outer
  | .item items :: outer => separator (.array (value :: items)) outer

/-- The reader after the first token of a value. -/
def start (outer : List Place) : Token → Option Reader
  | .null => some (accept .null outer)
  | .boolean b => some (accept (.boolean b) outer)
  | .number n => some (accept (.number n) outer)
  | .string s => some (accept (.string s) outer)
  | .openBracket => some (element outer)
  | .openBrace => some (key [] outer)
  | _ => none

/-- The reader after one more token. -/
def step : Reader → Token → Option Reader
  | value outer, token => start outer token
  | element outer, .closeBracket => some (accept (.array []) outer)
  | element outer, token => start (.item [] :: outer) token
  | key members outer, .string s => some (colon members s outer)
  | key [] outer, .closeBrace => some (accept (.object []) outer)
  | colon members name outer, .colon => some (value (.member members name :: outer))
  | separator (.array items) outer, .comma => some (value (.item items :: outer))
  | separator (.array items) outer, .closeBracket => some (accept (.array items.reverse) outer)
  | separator (.object members) outer, .comma => some (key members outer)
  | separator (.object members) outer, .closeBrace =>
    some (accept (.object members.reverse) outer)
  | _, _ => none

end Reader

/-- The value that a text is, with nothing but white space around it. -/
def Value.ofText? (text : String) : Option Value := do
  match ← (← tokens text).foldlM Reader.step (.value []) with
  | .finished value => some value
  | _ => none

/-- The written form of a character in a string. -/
def escape (c : Char) : String :=
  match c with
  | '"' => "\\\""
  | '\\' => "\\\\"
  | '\x08' => "\\b"
  | '\x0c' => "\\f"
  | '\n' => "\\n"
  | '\r' => "\\r"
  | '\t' => "\\t"
  | c =>
    if c.toNat < 0x20 then
      "\\u00" ++ String.ofList [Nat.digitChar (c.toNat / 16), Nat.digitChar (c.toNat % 16)]
    else c.toString

/-- The written form of a string. -/
def quote (text : String) : String := "\"" ++ String.join (text.toList.map escape) ++ "\""

/-- The written form of an object with the given names and written values. -/
def writeObject (members : List (String × String)) : String :=
  "\x7b" ++ ",".intercalate (members.map fun (name, value) => quote name ++ ":" ++ value) ++ "\x7d"

end ShortLink.Json
