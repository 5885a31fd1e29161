/-
  Paths as they are written.

  A path is kept as its text, which messages show verbatim.  Two paths are the same if they have the
  same components: repeated separators and dots after the first component do not count.  The order
  of paths is the order of their components.
-/

import SourceWeaver.Text.Blank

namespace SourceWeaver

/-- A path as it is written. -/
structure Path where
  text : String
deriving DecidableEq, Repr, Inhabited

namespace Path

/-! ## Components -/

/-- The parts of a text between separators, empty ones included. -/
def partsOf : List Char → List (List Char)
  | [] => [[]]
  | c :: rest =>
    if c = '/' then [] :: partsOf rest
    else match partsOf rest with
      | part :: parts => (c :: part) :: parts
      | [] => [[c]]

/-- Parts written with separators between them. -/
def joinParts (parts : List (List Char)) : List Char :=
  ['/'].intercalate parts

/-- A component of a path. -/
inductive Component where
  | root
  | current
  | parent
  | name (text : String)
deriving DecidableEq, Repr

/-- The place of a component among others that differ in kind. -/
def Component.rank : Component → Nat
  | root => 0
  | current => 1
  | parent => 2
  | name _ => 3

/-- Whether a component comes before another. -/
def Component.lt : Component → Component → Bool
  | name a, name b => a < b
  | a, b => a.rank < b.rank

/-- Whether a path starts at the root. -/
def isAbsolute (p : Path) : Bool :=
  p.text.toList.head? == some '/'

/-- Whether the first part of a path is a dot. -/
def startsAtDot (p : Path) : Bool :=
  (partsOf p.text.toList).head? == some ['.']

/-- The component of a part behind the first, if it is one. -/
def component? (part : List Char) : Option Component :=
  if part = [] || part = ['.'] then none
  else if part = ['.', '.'] then some .parent
  else some (.name (String.ofList part))

/-- The components of a path.  Empty parts count for nothing, and so do dots, except for one at the
    beginning of a relative path. -/
def components (p : Path) : List Component :=
  (if p.isAbsolute then [.root] else if p.startsAtDot then [.current] else [])
    ++ (partsOf p.text.toList).filterMap component?

/-- Whether two paths have the same components. -/
def same (p q : Path) : Bool :=
  p.components == q.components

/-- Whether a list of components comes before another. -/
def componentsLt : List Component → List Component → Bool
  | [], [] => false
  | [], _ :: _ => true
  | _ :: _, [] => false
  | a :: as, b :: bs => if a = b then componentsLt as bs else a.lt b

/-- Whether a path comes before another. -/
def lt (p q : Path) : Bool :=
  componentsLt p.components q.components

/-- Whether a path does not come after another. -/
def le (p q : Path) : Bool :=
  !q.lt p

/-! ## Names -/

/-- The last component of a path, if it is a name. -/
def fileName? (p : Path) : Option String :=
  match p.components.getLast? with
  | some (.name text) => some text
  | _ => none

/-- What follows the last dot of a name; a dot at the beginning does not count. -/
def extensionOf? (name : String) : Option String :=
  let reversed := name.toList.reverse
  let (after, before) := reversed.span (· != '.')
  if before.length ≤ 1 then none else some (String.ofList after.reverse)

/-- The extension of the name at the end of a path. -/
def extension? (p : Path) : Option String :=
  p.fileName? >>= extensionOf?

/-! ## Directories -/

/-- A path below another one. -/
def join (p : Path) (below : String) : Path :=
  if below.toList.head? == some '/' then ⟨below⟩
  else if p.text == "" || p.text.toList.getLast? == some '/' then ⟨p.text ++ below⟩
  else ⟨p.text ++ "/" ++ below⟩

/-- Parts without those at the end that are no components. -/
def trimParts (parts : List (List Char)) : List (List Char) :=
  (parts.reverse.dropWhile fun part => (component? part).isNone).reverse

/-- The path of the directory that a path lies in, `none` at the root and for the empty path. -/
def parent? (p : Path) : Option Path :=
  let fixed := if p.isAbsolute || p.startsAtDot then 1 else 0
  let cs := p.text.toList
  match trimParts (partsOf (cs.drop fixed)) with
  | [] => if p.startsAtDot && !p.isAbsolute then some ⟨""⟩ else none
  | parts => some ⟨String.ofList (cs.take fixed ++ joinParts (trimParts parts.dropLast))⟩

/-- A path and at most `n` directories above it, from the inside out. -/
def ancestorsUpTo : Nat → Path → List Path
  | 0, p => [p]
  | n + 1, p => p :: match p.parent? with
    | some above => ancestorsUpTo n above
    | none => []

/-- A path and all directories above it, from the inside out.  Each is shorter than the one before,
    so there are no more of them than the path has characters. -/
def ancestors (p : Path) : List Path :=
  ancestorsUpTo p.text.length p

end Path

end SourceWeaver
