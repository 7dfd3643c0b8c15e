/-! Why a text is no regular expression. -/
namespace StateLint.Regex

inductive Fault where
  | unclosedGroup
  | unopenedGroup
  | badGroupName
  | repeatedGroupName
  | lookAround
  | badFlags
  | nothingToRepeat
  | badCount
  | badEscape
  | backReference
  | badCodePoint
  | unknownProperty
  | badWordEdge
  | unclosedClass
  | badClassMember
  | reversedRange
  /-- Without Unicode, bytes beyond ASCII could be taken one by one. -/
  | brokenText
  | tooDeep
  | tooLarge
  deriving DecidableEq, Repr

end StateLint.Regex
