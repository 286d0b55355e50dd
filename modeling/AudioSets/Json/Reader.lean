import AudioSets.Json.Token

namespace AudioSets.Json

inductive Frame
  | items (done : List Json)
  | members (done : List (Text × Json))
  | member (done : List (Text × Json)) (key : Text)

inductive Reader
  | value (stack : List Frame)
  | firstItem (stack : List Frame)
  | firstKey (stack : List Frame)
  | key (done : List (Text × Json)) (stack : List Frame)
  | colon (done : List (Text × Json)) (key : Text) (stack : List Frame)
  | after (frame : Frame) (stack : List Frame)
  | done (v : Json)

namespace Reader

def put (v : Json) : List Frame → Reader
  | [] => done v
  | .items vs :: stack => after (.items (v :: vs)) stack
  | .member ms k :: stack => after (.members ((k, v) :: ms)) stack
  | .members ms :: stack => after (.members ms) stack

def begin (stack : List Frame) : Token → Option Reader
  | .null => some (put .null stack)
  | .bool b => some (put (.bool b) stack)
  | .number ds => some (put (.number ds) stack)
  | .string s => some (put (.string s) stack)
  | .openBracket => some (firstItem stack)
  | .openBrace => some (firstKey stack)
  | .closeBracket | .closeBrace | .colon | .comma => none

def step (r : Reader) (t : Token) : Option Reader :=
  match r, t with
  | value stack, t => begin stack t
  | firstItem stack, .closeBracket => some (put (.array []) stack)
  | firstItem stack, t => begin (.items [] :: stack) t
  | firstKey stack, .closeBrace => some (put (.object []) stack)
  | firstKey stack, .string k => some (colon [] k stack)
  | key ms stack, .string k => some (colon ms k stack)
  | colon ms k stack, .colon => some (value (.member ms k :: stack))
  | after (.items vs) stack, .comma => some (value (.items vs :: stack))
  | after (.items vs) stack, .closeBracket => some (put (.array vs.reverse) stack)
  | after (.members ms) stack, .comma => some (key ms stack)
  | after (.members ms) stack, .closeBrace => some (put (.object ms.reverse) stack)
  | _, _ => none

def run (r : Reader) : List Token → Option Reader
  | [] => some r
  | t :: ts =>
    match r.step t with
    | none => none
    | some r => r.run ts

def result? : Reader → Option Json
  | done v => some v
  | _ => none

end Reader

def ofTokens? (ts : List Token) : Option Json := ((Reader.value []).run ts).bind Reader.result?

def read? (s : String) : Option Json := (tokens? s.toList).bind ofTokens?

end AudioSets.Json
