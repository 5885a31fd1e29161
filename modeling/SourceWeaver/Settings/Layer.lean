/-
  Layers of settings.

  A layer sets some of the settings and leaves the others alone.  Applying layers one after the
  other lets a later one win wherever it sets something.
-/

import SourceWeaver.Settings.Basic

namespace SourceWeaver

/-- Settings of which each is set or left open. -/
structure Layer where
  keepEntryPoint : Option Bool := none
  entryOpen : Option String := none
  entryClose : Option String := none
  includeMarker : Option String := none
  commentOpen : Option String := none
  commentClose : Option String := none
  lineComment : Option String := none
  exampleWord : Option String := none
  switchWord : Option String := none
  indentWidth : Option Nat := none
  fence : Option String := none
  fenceInfo : Option String := none
deriving DecidableEq, Repr, Inhabited

namespace Layer

/-- The settings with everything replaced that the layer sets. -/
def apply (l : Layer) (s : Settings) : Settings where
  keepEntryPoint := l.keepEntryPoint.getD s.keepEntryPoint
  entryOpen := l.entryOpen.getD s.entryOpen
  entryClose := l.entryClose.getD s.entryClose
  includeMarker := l.includeMarker.getD s.includeMarker
  commentOpen := l.commentOpen.getD s.commentOpen
  commentClose := l.commentClose.getD s.commentClose
  lineComment := l.lineComment.getD s.lineComment
  exampleWord := l.exampleWord.getD s.exampleWord
  switchWord := l.switchWord.getD s.switchWord
  indentWidth := l.indentWidth.getD s.indentWidth
  fence := l.fence.getD s.fence
  fenceInfo := l.fenceInfo.getD s.fenceInfo

end Layer

end SourceWeaver
