namespace SyscallTables

/-! Paths as text. A path is split at `/`; empty parts and `.` parts are dropped except a
leading `.`, `..` steps up and a leading `/` is the root. The last part of a path is its file
name when it is an ordinary name; its parent is the text before that part with trailing
separators and `.` parts removed. Joining appends with one separator, and a rooted right-hand
side replaces the left. -/

/-- A path as text. -/
structure Path where
  text : String
  deriving DecidableEq, Repr, Inhabited

namespace Path

/-- A part of a path. -/
inductive Component
  | root
  | current
  | up
  | normal (name : String)
  deriving DecidableEq, Repr

/-- The texts between the separators of a path, empty ones included. -/
def segments (p : Path) : List String := (p.text.toList.splitOn '/').map String.ofList

/-- The non-empty parts of a path, as a lookup walks them. -/
def parts (p : Path) : List String := p.segments.filter fun s => !s.isEmpty

/-- Whether the text starts at the root. -/
def hasRoot (p : Path) : Bool := p.text.startsWith "/"

/-- Whether the text starts with a `.` part. -/
def startsWithCurrent (p : Path) : Bool :=
  !p.hasRoot && (p.text = "." || p.text.startsWith "./")

/-- The number of leading characters that are not part of the body. -/
def headLength (p : Path) : Nat :=
  (if p.hasRoot then 1 else 0) + (if p.startsWithCurrent then 1 else 0)

/-- The meaning of a part of the body; empty and `.` parts mean nothing. -/
def part (cs : List Char) : Option Component :=
  match cs with
  | [] => none
  | ['.'] => none
  | ['.', '.'] => some .up
  | _ => some (.normal (String.ofList cs))

/-- The last part of a body and what stands before its separator. -/
def splitLast (body : List Char) : List Char × List Char :=
  let rev := body.reverse
  let last := (rev.takeWhile (· != '/')).reverse
  let before := (rev.dropWhile (· != '/')).drop 1 |>.reverse
  (before, last)

/-- Takes parts off the end of `cs` until one means something; `head` characters at the front
are not body. -/
def lastMeaningful (head : Nat) : Nat → List Char → Option Component × List Char
  | 0, cs => (none, cs)
  | fuel + 1, cs =>
    if cs.length ≤ head then (none, cs)
    else
      let (front, body) := (cs.take head, cs.drop head)
      let (before, last) := splitLast body
      match part last with
      | some c => (some c, front ++ before)
      | none => lastMeaningful head fuel (front ++ before)

/-- The last part of a path and the text before it. -/
def nextBack (p : Path) : Option Component × List Char :=
  let cs := p.text.toList
  match lastMeaningful p.headLength (cs.length + 1) cs with
  | (some c, rest) => (some c, rest)
  | (none, rest) =>
    if p.hasRoot then (some .root, rest.dropLast)
    else if p.startsWithCurrent then (some .current, rest.dropLast)
    else (none, rest)

/-- Drops trailing separators and `.` parts. -/
def trimEnd (head : Nat) : Nat → List Char → List Char
  | 0, cs => cs
  | fuel + 1, cs =>
    if cs.length ≤ head then cs
    else
      let (front, body) := (cs.take head, cs.drop head)
      let (before, last) := splitLast body
      match part last with
      | some _ => cs
      | none => trimEnd head fuel (front ++ before)

/-- The file name: the last part when it is an ordinary name. -/
def fileName (p : Path) : Option String :=
  match p.nextBack.1 with
  | some (.normal n) => some n
  | _ => none

/-- The parent: the path without its last part, when that part is not the root. -/
def parent (p : Path) : Option Path :=
  match p.nextBack with
  | (some .root, _) => none
  | (none, _) => none
  | (some _, rest) => some ⟨String.ofList (trimEnd p.headLength (rest.length + 1) rest)⟩

/-- Appends a path with one separator; a rooted path replaces the left side. -/
def join (p q : Path) : Path :=
  if q.hasRoot then q
  else if p.text.isEmpty then q
  else if p.text.endsWith "/" then ⟨p.text ++ q.text⟩
  else ⟨p.text ++ "/" ++ q.text⟩

/-- Appends a file name. -/
def push (p : Path) (name : String) : Path := p.join ⟨name⟩

/-- The text of a path. -/
def render (p : Path) : String := p.text

end Path

end SyscallTables
