/-!
A bounded memory of member resolutions. Entries are kept by recency, the most recently stored or
found first; storing into a full memory drops the last.
-/

namespace PolicyBridge

inductive MemberKind where
  | attribute
  | method
deriving DecidableEq

structure Lookup where
  className : String
  member : String
  kind : MemberKind
deriving DecidableEq

structure Resolution where
  className : String
  kind : MemberKind
deriving DecidableEq

structure Cache where
  capacity : Nat
  entries : List (Lookup × Resolution)
  hits : UInt64
  misses : UInt64
deriving DecidableEq

namespace Cache

def maxPlaces : Nat := 0x400000000000000

/-- Whether there could be memory for so many entries; there are eight places for seven of them. -/
def isAddressable (size : Nat) : Bool := size * 8 / 7 ≤ maxPlaces

def ofSize (size : Nat) : Cache := ⟨max 1 size, [], 0, 0⟩

def find? (c : Cache) (k : Lookup) : Option Resolution :=
  (c.entries.find? fun e => e.1 = k).map Prod.snd

def without (c : Cache) (k : Lookup) : List (Lookup × Resolution) :=
  c.entries.filter fun e => e.1 ≠ k

def get (c : Cache) (k : Lookup) : Option Resolution × Cache :=
  match c.find? k with
  | some r => (some r, { c with entries := (k, r) :: c.without k, hits := c.hits + 1 })
  | none => (none, { c with misses := c.misses + 1 })

def put (c : Cache) (k : Lookup) (r : Resolution) : Cache :=
  { c with entries := ((k, r) :: c.without k).take c.capacity }

def clear (c : Cache) : Cache := { c with entries := [] }

def size (c : Cache) : Nat := c.entries.length

def hitRate (c : Cache) : Float :=
  let total := c.hits + c.misses
  if total = 0 then 0 else c.hits.toFloat / total.toFloat * 100

end Cache

end PolicyBridge
