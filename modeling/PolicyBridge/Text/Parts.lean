namespace PolicyBridge.Text

/-- The Unicode property White_Space. -/
def isBlank (c : Char) : Bool :=
  (9 ≤ c.toNat && c.toNat ≤ 13) || c.toNat = 0x20 || c.toNat = 0x85 || c.toNat = 0xa0 ||
    c.toNat = 0x1680 || (0x2000 ≤ c.toNat && c.toNat ≤ 0x200a) || c.toNat = 0x2028 ||
    c.toNat = 0x2029 || c.toNat = 0x202f || c.toNat = 0x205f || c.toNat = 0x3000

def allBlank (s : String) : Bool := s.toList.all isBlank

def splitAt (separator : Char) : List Char → List (List Char)
  | [] => [[]]
  | c :: cs =>
    match splitAt separator cs with
    | [] => [[c]]
    | p :: ps => if c = separator then [] :: p :: ps else (c :: p) :: ps

def split (separator : Char) (s : String) : List String :=
  (splitAt separator s.toList).map String.ofList

/-- What comes before and after so many bytes. Only what lies between characters can be cut at. -/
def cutAt? : Nat → List Char → Option (List Char × List Char)
  | 0, cs => some ([], cs)
  | _ + 1, [] => none
  | n + 1, c :: cs =>
    if c.utf8Size ≤ n + 1 then (cutAt? (n + 1 - c.utf8Size) cs).map fun (a, b) => (c :: a, b)
    else none

def from? (start : Nat) (cs : List Char) : Option (List Char) := (cutAt? start cs).map (·.2)

def between? (start stop : Nat) (cs : List Char) : Option (List Char) := do
  let (part, _) ← cutAt? (stop - start) (← from? start cs)
  return part

end PolicyBridge.Text
