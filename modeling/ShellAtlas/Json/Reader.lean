import ShellAtlas.Json.Token
import ShellAtlas.Json.Value
/-!
JSON values from tokens. The reader keeps the arrays and objects that are still open as a stack,
so it takes one token at a time and needs no look-ahead.
-/
namespace ShellAtlas.Json

inductive Frame where
  | array (items : List Json)
  | object (members : List (Option String × Json)) (key : Option String)
  deriving Repr

inductive Expect where
  | value
  | first
  | firstKey
  | key
  | colon (key : Option String)
  | next
  deriving DecidableEq, Repr

structure State where
  expect : Expect
  frames : List Frame
  result : Option Json
  deriving Repr

def State.put (frames : List Frame) (v : Json) : State :=
  match frames with
  | [] => ⟨.next, [], some v⟩
  | .array items :: rest => ⟨.next, .array (v :: items) :: rest, none⟩
  | .object members key :: rest => ⟨.next, .object ((key, v) :: members) none :: rest, none⟩

def State.begin? (frames : List Frame) : Token → Option State
  | .null => some (State.put frames .null)
  | .bool b => some (State.put frames (.bool b))
  | .number ds => some (State.put frames (.number ds))
  | .string t => some (State.put frames (.string t))
  | .openBracket => some ⟨.first, .array [] :: frames, none⟩
  | .openBrace => some ⟨.firstKey, .object [] none :: frames, none⟩
  | _ => none

def State.follow? (frames : List Frame) : Token → Option State
  | .comma =>
    match frames with
    | .array _ :: _ => some ⟨.value, frames, none⟩
    | .object _ _ :: _ => some ⟨.key, frames, none⟩
    | [] => none
  | .closeBracket =>
    match frames with
    | .array items :: rest => some (State.put rest (.array items.reverse))
    | _ => none
  | .closeBrace =>
    match frames with
    | .object members _ :: rest => some (State.put rest (.object members.reverse))
    | _ => none
  | _ => none

def State.withKey (frames : List Frame) (key : Option String) : List Frame :=
  match frames with
  | .object members _ :: rest => .object members key :: rest
  | _ => frames

def State.step? (s : State) (t : Token) : Option State :=
  match s.expect with
  | .value => State.begin? s.frames t
  | .first =>
    match t with
    | .closeBracket => State.follow? s.frames t
    | _ => State.begin? s.frames t
  | .firstKey =>
    match t with
    | .closeBrace => State.follow? s.frames t
    | .string key => some ⟨.colon key, s.frames, none⟩
    | _ => none
  | .key =>
    match t with
    | .string key => some ⟨.colon key, s.frames, none⟩
    | _ => none
  | .colon key =>
    match t with
    | .colon => some ⟨.value, State.withKey s.frames key, none⟩
    | _ => none
  | .next => State.follow? s.frames t

def State.run? : State → List Token → Option State
  | s, [] => some s
  | s, t :: ts => (s.step? t).bind fun next => State.run? next ts

def State.start : State :=
  ⟨.value, [], none⟩

def parse? (cs : List Char) : Option Json :=
  (tokens? cs).bind fun ts =>
    (State.run? .start ts).bind fun s => if s.frames.isEmpty then s.result else none

end ShellAtlas.Json
