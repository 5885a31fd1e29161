/-
  What can be wrong with settings.

  `Settings.problem?` finds the first problem in a fixed order: the indentation, then each marker
  by itself, then the pair of comment markers, then the fence and its info word.  Settings without
  a problem are `Valid`.
-/

import SourceWeaver.Settings.Basic
import SourceWeaver.Text.Blank
import SourceWeaver.Text.Quoted

namespace SourceWeaver

open Text

/-- Why settings cannot be used. -/
inductive Problem where
  | noIndent
  | wideIndent (width : Nat)
  | emptyMarker (marker : Marker)
  | paddedMarker (marker : Marker)
  | equalCommentMarkers
  | badFence (fence : String)
  | badInfo (info : String)
deriving DecidableEq, Repr

/-- The widest level of indentation. -/
def maxIndentWidth : Nat := 16

/-- The fewest characters of a fence. -/
def minFenceLength : Nat := 3

namespace Problem

/-- A problem in words, with the setting that it is about. -/
def message : Problem → String
  | noIndent => "indent_width must be at least 1"
  | wideIndent width =>
    "indent_width " ++ toString width ++ " exceeds maximum of " ++ toString maxIndentWidth
  | emptyMarker m => m.key ++ " must not be empty"
  | paddedMarker m => m.key ++ " must not have surrounding whitespace"
  | equalCommentMarkers => "comment_open and comment_close must differ"
  | badFence fence =>
    "fence " ++ quote fence ++ " must be at least " ++ toString minFenceLength
      ++ " backticks or tildes"
  | badInfo info => "fence_info " ++ quote info ++ " must be a single word"

end Problem

/-- A marker is neither blank nor padded with white space. -/
def markerProblem? (m : Marker) (text : String) : Option Problem :=
  if trim text = "" then some (.emptyMarker m)
  else if trim text ≠ text then some (.paddedMarker m)
  else none

/-- A fence is a run of at least three backticks or of at least three tildes. -/
def isFence (fence : List Char) : Bool :=
  match fence with
  | [] => false
  | c :: rest => (c == '`' || c == '~') && rest.all (· == c) && minFenceLength ≤ fence.length

namespace Settings

/-- The first problem of some settings. -/
def problem? (s : Settings) : Option Problem :=
  if s.indentWidth = 0 then some .noIndent
  else if maxIndentWidth < s.indentWidth then some (.wideIndent s.indentWidth)
  else match Marker.all.findSome? fun m => markerProblem? m (s.marker m) with
    | some problem => some problem
    | none =>
      if s.commentOpen = s.commentClose then some .equalCommentMarkers
      else if !isFence s.fence.toList then some (.badFence s.fence)
      else if s.fenceInfo.toList.any isBlank then some (.badInfo s.fenceInfo)
      else none

/-- Settings that a conversion can use. -/
def Valid (s : Settings) : Prop :=
  s.problem? = none

/-- Settings are checked by looking for their first problem. -/
instance (s : Settings) : Decidable s.Valid :=
  inferInstanceAs (Decidable (s.problem? = none))

theorem valid_default : Valid {} := by decide

end Settings

end SourceWeaver
