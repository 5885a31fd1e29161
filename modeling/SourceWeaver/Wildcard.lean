/-
  Wildcard patterns for paths.

  In a pattern, `?` stands for any one character, `*` for any text, `[abc]` and `[a-z]` for one
  character of a class, and `[!abc]` for one outside it.  Two stars that make up a whole component
  stand for any number of components.  Separators are characters like any other.

  `fits` says what it means for a text to fit a pattern; `Pattern.matches` finds it out from a table
  over all ends of the text, so that it looks at each part and each end once.  `matches_eq_fits`
  states that the two agree.
-/

namespace SourceWeaver.Wildcard

/-! ## Patterns -/

/-- One entry of a character class. -/
inductive Member where
  | single (c : Char)
  | range (low high : Char)
deriving DecidableEq, Repr

/-- One part of a pattern. -/
inductive Token where
  | char (c : Char)
  | anyChar
  | oneOf (members : List Member)
  | noneOf (members : List Member)
  | anyText
  | anyComponents
deriving DecidableEq, Repr

/-- A pattern: its parts in order. -/
abbrev Pattern := List Token

/-! ## Reading patterns -/

/-- What is wrong with a pattern. -/
inductive Fault where
  | threeStars
  | partialComponent
  | badClass
deriving DecidableEq, Repr

/-- A fault and the position of the character near which it lies. -/
structure PatternError where
  position : Nat
  fault : Fault
deriving DecidableEq, Repr

/-- A fault in words, with its position. -/
def PatternError.message (e : PatternError) : String :=
  "Pattern syntax error near position " ++ toString e.position ++ ": " ++
    match e.fault with
    | .threeStars => "wildcards are either regular `*` or recursive `**`"
    | .partialComponent => "recursive wildcards must form a single path component"
    | .badClass => "invalid range pattern"

/-- The members of a class, from the text between its brackets. -/
def members : List Char → List Member
  | low :: '-' :: high :: rest => .range low high :: members rest
  | c :: rest => .single c :: members rest
  | [] => []

/-- A text up to a closing bracket, and what follows the bracket.  The first character belongs to
    the class whatever it is. -/
def splitClass : List Char → Option (List Char × List Char)
  | first :: rest =>
    match rest.dropWhile (· != ']') with
    | _ :: behind => some (first :: rest.takeWhile (· != ']'), behind)
    | [] => none
  | [] => none

/-- A class, from behind its opening bracket, and what follows it. -/
def class? : List Char → Option (Token × List Char)
  | '!' :: rest => (splitClass rest).map fun (text, behind) => (.noneOf (members text), behind)
  | rest => (splitClass rest).map fun (text, behind) => (.oneOf (members text), behind)

/-- Reads at most `fuel` parts of a pattern from a position, behind the character `before`. -/
def parseFrom : Nat → Nat → Option Char → List Char → Except PatternError Pattern
  | 0, _, _, _ => .ok []
  | _ + 1, _, _, [] => .ok []
  | fuel + 1, position, before, c :: rest =>
    if c = '?' then (.anyChar :: ·) <$> parseFrom fuel (position + 1) (some c) rest
    else if c = '*' then
      let more := rest.takeWhile (· == '*')
      let behind := rest.dropWhile (· == '*')
      if 1 < more.length then .error ⟨position + 2, .threeStars⟩
      else if more.length = 0 then
        (.anyText :: ·) <$> parseFrom fuel (position + 1) (some c) rest
      -- two stars stand between separators or at an end of the pattern
      else if before.any (· != '/') then .error ⟨position - 1, .partialComponent⟩
      else match behind with
        | [] => .ok [.anyComponents]
        | '/' :: behind =>
          (.anyComponents :: ·) <$> parseFrom fuel (position + 3) (some '/') behind
        | _ => .error ⟨position + 2, .partialComponent⟩
    else if c = '[' then
      match class? rest with
      | some (token, behind) =>
        (token :: ·) <$>
          parseFrom fuel (position + 1 + (rest.length - behind.length)) (some ']') behind
      | none => .error ⟨position, .badClass⟩
    else (.char c :: ·) <$> parseFrom fuel (position + 1) (some c) rest

/-- Reads a pattern.  Every part takes at least one character, so there are no more of them than
    characters. -/
def parse (pattern : String) : Except PatternError Pattern :=
  parseFrom pattern.toList.length 0 none pattern.toList

/-! ## Matching -/

/-- Whether a character belongs to an entry of a class. -/
def Member.admits (m : Member) (c : Char) : Bool :=
  match m with
  | single d => c == d
  | range low high => low ≤ c && c ≤ high

/-- Whether a part that stands for one character admits it. -/
def Token.admits (t : Token) (c : Char) : Bool :=
  match t with
  | char d => c == d
  | anyChar => true
  | oneOf ms => ms.any (·.admits c)
  | noneOf ms => !ms.any (·.admits c)
  | anyText | anyComponents => false

/-- Whether some end of a text fits. -/
def someEnd (fits : List Char → Bool) : List Char → Bool
  | [] => fits []
  | c :: rest => fits (c :: rest) || someEnd fits rest

/-- Whether the end of a text behind some separator fits, or the empty end. -/
def someEndBehindSeparator (fits : List Char → Bool) : List Char → Bool
  | [] => fits []
  | c :: rest => (c == '/' && fits rest) || someEndBehindSeparator fits rest

/-- Whether a text fits a pattern. -/
def fits : Pattern → List Char → Bool
  | [], s => s.isEmpty
  | .anyText :: ts, s => someEnd (fits ts) s
  | .anyComponents :: ts, s => fits ts s || someEndBehindSeparator (fits ts) s
  | _ :: _, [] => false
  | t :: ts, c :: s => t.admits c && fits ts s

/-! ## Tables over the ends of a text -/

/-- The values of a function on all ends of a text, the longest first. -/
def onEnds (f : List Char → Bool) : List Char → List Bool
  | [] => [f []]
  | c :: rest => f (c :: rest) :: onEnds f rest

/-- A new table over the ends of a text from an old one.  The value at the empty end comes from the
    old value there; the value at an end `c :: rest` comes from `c`, the old values at `c :: rest`
    and at `rest`, and the new value at `rest`. -/
def extend (atEmpty : Bool → Bool) (atChar : Char → Bool → Bool → Bool → Bool) :
    List Char → List Bool → List Bool
  | c :: rest, here :: old =>
    let new := extend atEmpty atChar rest old
    atChar c here (old.headD false) (new.headD false) :: new
  | [], here :: _ => [atEmpty here]
  | _, [] => []

/-- The table of a pattern that begins with a part, from the table of what follows the part. -/
def Token.extend (t : Token) (s : List Char) (old : List Bool) : List Bool :=
  match t with
  | anyText => Wildcard.extend id (fun _ here _ new => here || new) s old
  | anyComponents =>
    old.zipWith (· || ·)
      (Wildcard.extend id (fun c _ behind new => (c == '/' && behind) || new) s old)
  | t => Wildcard.extend (fun _ => false) (fun c _ behind _ => t.admits c && behind) s old

/-- The table of which ends of a text fit a pattern. -/
def table (p : Pattern) (s : List Char) : List Bool :=
  p.foldr (·.extend s) (onEnds List.isEmpty s)

/-- Whether a text matches a pattern as a whole. -/
def Pattern.matches (p : Pattern) (text : String) : Bool :=
  (table p text.toList).headD false

theorem headD_onEnds (f : List Char → Bool) (s : List Char) (b : Bool) :
    (onEnds f s).headD b = f s := by
  cases s <;> rfl

theorem zipWith_onEnds (op : Bool → Bool → Bool) (f g : List Char → Bool) (s : List Char) :
    (onEnds f s).zipWith op (onEnds g s) = onEnds (fun e => op (f e) (g e)) s := by
  induction s with
  | nil => rfl
  | cons c rest ih => simp only [onEnds, List.zipWith_cons_cons, ih]

/-- The new table holds the values of any function that obeys its two rules. -/
theorem extend_onEnds {atEmpty : Bool → Bool} {atChar : Char → Bool → Bool → Bool → Bool}
    {f g : List Char → Bool} (hempty : g [] = atEmpty (f []))
    (hchar : ∀ c rest, g (c :: rest) = atChar c (f (c :: rest)) (f rest) (g rest))
    (s : List Char) : extend atEmpty atChar s (onEnds f s) = onEnds g s := by
  induction s with
  | nil => simp only [onEnds, extend, hempty]
  | cons c rest ih => simp only [onEnds, extend, ih, headD_onEnds, hchar]

/-- A part extends the table of what follows it to that of the whole. -/
theorem Token.extend_fits (t : Token) (ts : Pattern) (s : List Char) :
    t.extend s (onEnds (fits ts) s) = onEnds (fits (t :: ts)) s := by
  cases t with
  | anyText =>
    exact extend_onEnds rfl (fun _ _ => by simp only [fits, someEnd]) s
  | anyComponents =>
    have hrest : Wildcard.extend id (fun c _ behind new => (c == '/' && behind) || new) s
        (onEnds (fits ts) s) = onEnds (someEndBehindSeparator (fits ts)) s :=
      extend_onEnds rfl (fun _ _ => rfl) s
    simp only [Token.extend, hrest, zipWith_onEnds]
    rfl
  | char | anyChar | oneOf | noneOf => exact extend_onEnds rfl (fun _ _ => rfl) s

theorem table_eq_onEnds (p : Pattern) (s : List Char) : table p s = onEnds (fits p) s := by
  induction p with
  | nil => rfl
  | cons t ts ih =>
    have hstep : table (t :: ts) s = t.extend s (table ts s) := rfl
    rw [hstep, ih, Token.extend_fits]

/-- The table finds out whether a text fits. -/
theorem Pattern.matches_eq_fits (p : Pattern) (text : String) :
    p.matches text = fits p text.toList := by
  rw [Pattern.matches, table_eq_onEnds, headD_onEnds]

end SourceWeaver.Wildcard
