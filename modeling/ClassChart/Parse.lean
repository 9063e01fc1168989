import ClassChart.Reading

/-!
Parsing: the diagram that a token sequence declares. The sequence counts up to its first end of
input; where there is none, the end is taken to stand at the start position. The first obstacle is
the only error, and without one the reports are the tokens that started no declaration and
the first token behind the end marker.
-/
namespace ClassChart

/-- The end of input of a sequence that lacks one. -/
def missingEnd : Token := ⟨.endOfInput, "", .start⟩

/-- The tokens before the first end of input. -/
def beforeEnd (tokens : List Token) : List Token :=
  tokens.takeWhile (!·.isEnd)

/-- The first end of input. -/
def firstEnd (tokens : List Token) : Token :=
  (tokens.find? (·.isEnd)).getD missingEnd

/-- The report on the tokens behind the end marker; blank lines are no content. -/
def trailingReports (tokens : List Token) : List Diagnostic :=
  ((skipNewlines tokens).head?.map .trailingContent).toList

/-- What a token sequence declares, and the reports of what was passed over. -/
structure Parsed where
  diagram : Diagram
  diagnostics : List Diagnostic
  deriving DecidableEq, Repr

/-- What a document means that was read to its end marker. -/
def Parsed.ofReading (declarations : List Declaration) (trailing : List Token) : Parsed where
  diagram := .ofDeclarations declarations
  diagnostics := unrecognizedReports declarations ++ trailingReports trailing

/-- The diagram that a token sequence declares. -/
def parse (tokens : List Token) : Except SyntaxError Parsed :=
  let reading := readDocument (beforeEnd tokens)
  match reading.outcome with
  | .error obstacle => .error (obstacle.error (firstEnd tokens))
  | .ok trailing => .ok (.ofReading reading.read trailing)

end ClassChart
