/-
  File trees: files, directories and symbolic links.

  A location is the list of names that leads from the root to a node, without links.  `at?` looks a
  node up, `put` replaces or adds one, `remove` takes one away and `move` puts one elsewhere.
  `child?_put_self` and `child?_put_of_ne` say what `put` changes in one directory: the entry on the
  way, and no other.
-/

namespace SourceWeaver.Files

/-! ## Contents -/

/-- What a file holds: some bytes, or a hole, which reads as zeros and takes no room. -/
inductive Content where
  | bytes (data : ByteArray)
  | hole (size : Nat)
deriving Inhabited

namespace Content

/-- Contents are equal if they are the same bytes or holes of the same size. -/
instance : DecidableEq Content
  | bytes a, bytes b =>
    @decidable_of_decidable_of_iff (a = b) _ (ByteArray.decEq a b) (by rw [bytes.injEq])
  | hole m, hole n => decidable_of_decidable_of_iff (by rw [hole.injEq])
  | bytes _, hole _ => isFalse Content.noConfusion
  | hole _, bytes _ => isFalse Content.noConfusion

/-- The number of bytes. -/
def size : Content → Nat
  | bytes data => data.size
  | hole n => n

/-- The bytes of a text in UTF-8. -/
def ofText (text : String) : Content :=
  bytes text.toUTF8

/-- The content as text, if it is valid UTF-8. -/
def text? : Content → Option String
  | bytes data => String.fromUTF8? data
  | hole n => some ("".pushn '\x00' n)

theorem text?_ofText (text : String) : (ofText text).text? = some text := by
  have h : text.toUTF8.IsValidUTF8 := text.isValidUTF8
  simp only [ofText, text?, String.fromUTF8?, h, dite_true]
  rfl

/-- The text of a hole holds nothing but zeros. -/
theorem toList_zeros (n : Nat) : ("".pushn '\x00' n).toList = List.replicate n '\x00' := by
  unfold String.pushn
  induction n with
  | zero => rfl
  | succ n ih => rw [Nat.repeat, String.toList_push, ih, List.replicate_succ']

end Content

/-! ## Nodes -/

/-- A file with its mode, a directory with its entries, or a symbolic link. -/
inductive Node where
  | file (content : Content) (mode : Nat)
  | directory (entries : List (String × Node))
  | link (target : String)
deriving Inhabited

/-- The names from the root to a node. -/
abbrev Location := List String

namespace Node

/-- The entries of a directory; other nodes have none. -/
def entries : Node → List (String × Node)
  | directory es => es
  | _ => []

/-- An entry of a directory. -/
def child? (n : Node) (name : String) : Option Node :=
  n.entries.lookup name

/-- The node at a location, if there is one; no link is followed on the way. -/
def at? (n : Node) : Location → Option Node
  | [] => some n
  | name :: rest =>
    match n.child? name with
    | some child => child.at? rest
    | none => none

/-- Entries with the node of a name replaced, or added at the end. -/
def putEntry (es : List (String × Node)) (name : String) (new : Node) : List (String × Node) :=
  match es with
  | [] => [(name, new)]
  | (other, old) :: rest =>
    if name == other then (name, new) :: rest else (other, old) :: putEntry rest name new

/-- The tree with the node at a location replaced or added; what is no directory on the way there
    gives way to one. -/
def put (n : Node) (new : Node) : Location → Node
  | [] => new
  | name :: rest =>
    directory (putEntry n.entries name (((n.child? name).getD (directory [])).put new rest))

/-- Entries without those of a name. -/
def removeEntry (es : List (String × Node)) (name : String) : List (String × Node) :=
  es.filter (·.1 != name)

/-- The tree without the node at a location; the root stays. -/
def remove (n : Node) : Location → Node
  | [] => n
  | [name] => directory (removeEntry n.entries name)
  | name :: rest =>
    match n.child? name with
    | some child => directory (putEntry n.entries name (child.remove rest))
    | none => n

/-- The tree with the node at one location moved to another, over what is there. -/
def move (n : Node) (source target : Location) : Node :=
  match n.at? source with
  | some moved => (n.remove source).put moved target
  | none => n

theorem at?_cons (n : Node) (name : String) (rest : Location) :
    n.at? (name :: rest) = (n.child? name).bind (·.at? rest) := by
  simp only [at?]
  cases n.child? name <;> rfl

theorem lookup_putEntry_self (es : List (String × Node)) (name : String) (new : Node) :
    (putEntry es name new).lookup name = some new := by
  induction es with
  | nil => simp [putEntry]
  | cons e rest ih =>
    obtain ⟨other, old⟩ := e
    by_cases h : name = other
    · simp [putEntry, h]
    · have hb : (name == other) = false := by simpa using h
      simp [putEntry, hb, List.lookup_cons, ih]

theorem lookup_putEntry_of_ne {name other : String} (h : other ≠ name) (es : List (String × Node))
    (new : Node) : (putEntry es name new).lookup other = es.lookup other := by
  have hb : (other == name) = false := by simpa using h
  induction es with
  | nil => simp [putEntry, List.lookup_cons, hb]
  | cons e rest ih =>
    obtain ⟨first, old⟩ := e
    by_cases hf : name = first
    · subst hf
      simp [putEntry, List.lookup_cons, hb]
    · have hb' : (name == first) = false := by simpa using hf
      simp [putEntry, hb', List.lookup_cons, ih]

theorem child?_put_self (n new : Node) (name : String) (rest : Location) :
    (n.put new (name :: rest)).child? name
      = some (((n.child? name).getD (directory [])).put new rest) := by
  simp only [put, child?, entries, lookup_putEntry_self]

theorem child?_put_of_ne (n new : Node) {name other : String} (h : other ≠ name)
    (rest : Location) : (n.put new (name :: rest)).child? other = n.child? other := by
  simp only [put, child?, entries, lookup_putEntry_of_ne h]

/-- A node that has been put somewhere is found there. -/
theorem at?_put_self (n new : Node) (l : Location) : (n.put new l).at? l = some new := by
  induction l generalizing n with
  | nil => rfl
  | cons name rest ih => rw [at?_cons, child?_put_self, Option.bind_some, ih]

end Node

end SourceWeaver.Files
