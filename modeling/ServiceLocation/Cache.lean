import Std.Data.TreeMap

/-!
**Remembered resolutions.**

An entry stays until the cache is cleared or the same key is given another value.

* `key`: the key of a name, a service and an optional server, joined by bars;
* `get?_insert`: looking up after an insertion;
* `entries`: all entries in the order of their keys.
-/

namespace ServiceLocation

/-- Remembered resolutions, by key. -/
structure Cache where
  /-- The values by their keys. -/
  map : Std.TreeMap String String compare

namespace Cache

/-- The cache without an entry. -/
def empty : Cache := ⟨∅⟩

instance : Inhabited Cache := ⟨empty⟩

/-- The key of a name, a service and the server that is asked first, if one is given. -/
def key (domain service : String) (server : Option String) : String :=
  domain ++ "|" ++ service ++ "|" ++ server.getD ""

/-- The value of a key. -/
def get? (cache : Cache) (key : String) : Option String := cache.map[key]?

/-- The cache with a value for a key, in place of an earlier one. -/
def insert (cache : Cache) (key value : String) : Cache := ⟨cache.map.insert key value⟩

/-- All entries, in the order of their keys. -/
def entries (cache : Cache) : List (String × String) := cache.map.toList

/-- The number of entries. -/
def size (cache : Cache) : Nat := cache.map.size

/-- Whether there is no entry. -/
def isEmpty (cache : Cache) : Bool := cache.map.isEmpty

@[simp] theorem get?_empty (key : String) : empty.get? key = none := by
  simp [get?, empty]

/-- Looking up after an insertion. -/
theorem get?_insert (cache : Cache) (key value other : String) :
    (cache.insert key value).get? other = if key = other then some value else cache.get? other := by
  simp only [get?, insert, Std.TreeMap.getElem?_insert, Std.compare_eq_iff_eq]

end Cache

end ServiceLocation
