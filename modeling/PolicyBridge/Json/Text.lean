import PolicyBridge.Json.Token

namespace PolicyBridge.Json

/-- A container that is still open; what it holds is kept last first. -/
inductive Frame where
  | items (done : List Json)
  | member (done : List (Option String × Json)) (key : Option String)

inductive Expect where
  | value (outer : List Frame)
  | firstItem (outer : List Frame)
  | firstKey (outer : List Frame)
  | key (done : List (Option String × Json)) (outer : List Frame)
  | colon (done : List (Option String × Json)) (key : Option String) (outer : List Frame)
  | separator (top : Frame) (outer : List Frame)
  | finished (j : Json)

namespace Expect

def close (j : Json) : List Frame → Expect
  | [] => .finished j
  | .items done :: fs => .separator (.items (j :: done)) fs
  | .member done k :: fs => .separator (.member ((k, j) :: done) k) fs

def beginValue (t : Token) (fs : List Frame) : Option Expect :=
  match t with
  | .mark .openArray => some (.firstItem fs)
  | .mark .openObject => some (.firstKey fs)
  | .text s => some (close (.string s) fs)
  | .word j => some (close j fs)
  | _ => none

def step : Expect → Token → Option Expect
  | .value fs, t => beginValue t fs
  | .firstItem fs, .mark .closeArray => some (close (.array []) fs)
  | .firstItem fs, t => beginValue t (.items [] :: fs)
  | .firstKey fs, .mark .closeObject => some (close (.object []) fs)
  | .firstKey fs, .text k => some (.colon [] k fs)
  | .key done fs, .text k => some (.colon done k fs)
  | .colon done k fs, .mark .colon => some (.value (.member done k :: fs))
  | .separator (.items done) fs, .mark .comma => some (.value (.items done :: fs))
  | .separator (.items done) fs, .mark .closeArray => some (close (.array done.reverse) fs)
  | .separator (.member done _) fs, .mark .comma => some (.key done fs)
  | .separator (.member done _) fs, .mark .closeObject => some (close (.object done.reverse) fs)
  | _, _ => none

def run : Expect → List Token → Option Expect
  | e, [] => some e
  | e, t :: ts =>
    match e.step t with
    | some e => e.run ts
    | none => none

def finish? : Expect → Option Json
  | .finished j => some j
  | _ => none

end Expect

def ofTokens? (ts : List Token) : Option Json := ((Expect.value []).run ts).bind Expect.finish?

def ofChars? (cs : List Char) : Option Json := (scan cs).bind ofTokens?

def read? (s : String) : Option Json := ofChars? s.toList

mutual

def put : Json → List Char → List Char
  | .string s, r => quotedChars s ++ r
  | .array items, r => '[' :: putItems items (']' :: r)
  | .object members, r => '{' :: putMembers members ('}' :: r)
  | .null, r => wordChars .null ++ r
  | .bool b, r => wordChars (.bool b) ++ r
  | .number n, r => wordChars (.number n) ++ r

def putItems : List Json → List Char → List Char
  | [], r => r
  | [j], r => put j r
  | j :: js, r => put j (',' :: putItems js r)

def putMembers : List (Option String × Json) → List Char → List Char
  | [], r => r
  | [(k, j)], r => quotedChars k ++ ':' :: put j r
  | (k, j) :: ms, r => quotedChars k ++ ':' :: put j (',' :: putMembers ms r)

end

def chars (j : Json) : List Char := put j []

def write (j : Json) : String := String.ofList (chars j)

end PolicyBridge.Json
