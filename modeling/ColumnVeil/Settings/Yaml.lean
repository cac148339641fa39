import ColumnVeil.Settings.Yaml.Flow

/-!
# Documents in YAML

`Document.ofYaml?` reads a text line by line.  The indentation of a line says to which list
or record it belongs; behind a dash or a key the rest of a line is read as if it were a line
of its own.  Records have keys that are scalars on one line.
-/

namespace ColumnVeil

namespace YamlText

/-- A line, without the blanks in front of it. -/
structure Line where
  indent : Nat
  text : List Char
deriving DecidableEq, Repr

/-- Line ends of any kind as line feeds. -/
def unifyLineEnds : List Char → List Char
  | [] => []
  | '\r' :: '\n' :: rest => '\n' :: unifyLineEnds rest
  | '\r' :: rest => '\n' :: unifyLineEnds rest
  | character :: rest => character :: unifyLineEnds rest

/-- The line that some characters are. -/
def Line.ofChars (characters : List Char) : Line :=
  let text := characters.dropWhile (· == ' ')
  { indent := characters.length - text.length, text }

/-- The lines of a text. -/
def linesOf (characters : List Char) : List Line :=
  (characters.splitOn '\n').map Line.ofChars

/-- The text of some lines. -/
def textOf : List Line → List Char
  | [] => []
  | [line] => List.replicate line.indent ' ' ++ line.text
  | line :: rest => List.replicate line.indent ' ' ++ line.text ++ '\n' :: textOf rest

namespace Line

/-- A line that says nothing. -/
def isEmpty (line : Line) : Bool :=
  line.text.all isBlank

/-- A line that says nothing but a comment. -/
def isIdle (line : Line) : Bool :=
  match line.text.dropWhile isBlank with
  | [] => true
  | character :: _ => character == '#'

/-- A line that begins an item of a list. -/
def isItem (line : Line) : Bool :=
  match line.text with
  | '-' :: rest => endsWord rest
  | _ => false

end Line

/-- Nothing but a comment. -/
def isRemark (rest : List Char) : Bool :=
  match rest.dropWhile isBlank with
  | [] => true
  | character :: _ => character == '#' && rest.head?.any isBlank

/-! ## Scalars over several lines -/

/-- A scalar without quotes on one line: up to a comment or a key's colon. -/
def spanPlainLine : List Char → List Char × List Char
  | [] => ([], [])
  | character :: rest =>
    if character == ':' && endsWord rest then ([], character :: rest)
    else if isBlank character && rest.head? == some '#' then ([], character :: rest)
    else
      let (others, rest) := spanPlainLine rest
      (character :: others, rest)

/-- A text without the blanks at its end. -/
def trimEnd (text : List Char) : List Char :=
  (text.reverse.dropWhile isBlank).reverse

/-- The lines that go on with a scalar without quotes, folded.  They are indented by `least`
or more, and a comment ends the scalar.  None if a key's colon stands in them. -/
def continuePlain? (least : Nat) : (emptyLines : Nat) → List Line → Option (List Char × List Line)
  | _, [] => some ([], [])
  | emptyLines, line :: rest =>
    if line.isEmpty then
      match continuePlain? least (emptyLines + 1) rest with
      | some ([], _) => some ([], line :: rest)
      | found => found
    else if line.indent < least || line.text.head? == some '#' then some ([], line :: rest)
    else
      let (text, behind) := spanPlainLine (line.text.dropWhile isBlank)
      if behind.isEmpty then do
        let (others, rest) ← continuePlain? least 0 rest
        return (folded emptyLines ++ trimEnd text ++ others, rest)
      else if isRemark behind then some (folded emptyLines ++ trimEnd text, rest)
      else none

/-- What becomes of the line ends behind a scalar of kept lines. -/
inductive Chomp
  | strip
  | clip
  | keep
deriving DecidableEq, Repr

/-- The marks of a scalar of kept lines: how its end is treated, and its indentation. -/
def readBlockMarks? : List Char → Chomp × Option Nat → Option (Chomp × Option Nat)
  | [], marks => some marks
  | '-' :: rest, (_, indent) => readBlockMarks? rest (.strip, indent)
  | '+' :: rest, (_, indent) => readBlockMarks? rest (.keep, indent)
  | digit :: rest, (chomp, indent) =>
    if '1' ≤ digit && digit ≤ '9' && indent.isNone then
      readBlockMarks? rest (chomp, some (digit.toNat - 48))
    else if isRemark (digit :: rest) then some (chomp, indent)
    else none

/-- The kept lines of a scalar with an indentation, and the lines behind them. -/
def spanKept (indent : Nat) (lines : List Line) : List (List Char) × List Line :=
  let kept := lines.takeWhile fun line => indent ≤ line.indent || line.text.isEmpty
  (kept.map fun line => List.replicate (line.indent - indent) ' ' ++ line.text, lines.drop kept.length)

/-- Lines folded into one where neither begins with a blank; empty lines are line ends. -/
def foldLines : (before : Option (List Char)) → (emptyLines : Nat) → List (List Char) → List Char
  | _, _, [] => []
  | before, emptyLines, [] :: rest => foldLines before (emptyLines + 1) rest
  | before, emptyLines, line :: rest =>
    let isDeep (line : List Char) : Bool := line.head?.any isBlank
    let ends := match before with
      | none => List.replicate emptyLines '\n'
      | some last =>
        if isDeep last || isDeep line then List.replicate (emptyLines + 1) '\n' else folded emptyLines
    ends ++ line ++ foldLines (some line) 0 rest

/-- A scalar of kept lines, whose marks follow a bar or an angle; `least` is the indentation
that its lines have at least. -/
def readKept? (fold : Bool) (least : Nat) (marks : List Char) (lines : List Line) :
    Option (List Char × List Line) := do
  let (chomp, given) ← readBlockMarks? marks (.clip, none)
  let indent := match given with
    | some width => least - 1 + width
    | none => max least (((lines.find? fun line => !line.text.isEmpty).map (·.indent)).getD least)
  let (kept, rest) := spanKept indent lines
  let body := (kept.reverse.dropWhile List.isEmpty).reverse
  let text := if fold then foldLines none 0 body else List.intercalate ['\n'] body
  let ends := match chomp with
    | .strip => []
    | .clip => if body.isEmpty then [] else ['\n']
    | .keep => List.replicate (kept.length - body.length + if body.isEmpty then 0 else 1) '\n'
  return (text ++ ends, rest)

/-! ## Lists and records -/

/-- The key at the start of a line and what follows its colon, if the line has a key.  The
properties in front of a key belong to the key. -/
def splitKey? (text : List Char) : Option (Scalar × List Char) :=
  let (properties, text) := readProperties false (text.length + 1) {} text
  let afterColon (rest : List Char) : Option (List Char) :=
    match rest.dropWhile isBlank with
    | ':' :: behind => if endsWord behind then some behind else none
    | _ => none
  match text with
  | quote :: rest =>
    if quote == '"' || quote == '\'' then do
      let (key, rest) ← readQuoted? quote 0 (rest.length + 1) rest
      return (.string (String.ofList key), ← afterColon rest)
    else if beginsPlain text || quote == ':' && endsWord rest then do
      let (key, rest) := spanPlainLine text
      return (properties.scalar (String.ofList (trimEnd key)), ← afterColon rest)
    else none
  | [] => none

/-- The lines behind a value that ends within a line; only a comment may follow it there. -/
def linesBehind? (rest : List Char) : Option (List Line) :=
  if isRemark (rest.takeWhile (· != '\n')) then some (linesOf ((rest.dropWhile (· != '\n')).drop 1))
  else none

/-- A value that begins in the middle of a line or fills whole lines, but is no list of dashes
and no record of keys. -/
def readInline (properties : Properties) (least : Nat) (text : List Char) (lines : List Line) :
    Reading (Document × List Line) := do
  let all := if lines.isEmpty then text else text ++ '\n' :: textOf lines
  match text with
  | '*' :: rest =>
    let (name, behind) := spanWord false rest
    if isRemark behind then return (← repeated (String.ofList name), lines) else failure
  | '[' :: _ =>
    let (value, rest) ← readFlow (2 * all.length + 2) all
    return (← properties.keep value, ← linesBehind? rest)
  | '\x7b' :: _ =>
    let (value, rest) ← readFlow (2 * all.length + 2) all
    return (← properties.keep value, ← linesBehind? rest)
  | '|' :: marks =>
    let (kept, lines) ← readKept? false least marks lines
    return (← properties.keep (.string (String.ofList kept)), lines)
  | '>' :: marks =>
    let (kept, lines) ← readKept? true least marks lines
    return (← properties.keep (.string (String.ofList kept)), lines)
  | quote :: _ =>
    if quote == '"' || quote == '\'' then
      let (value, rest) ← readQuoted? quote least (all.length + 1) (all.drop 1)
      return (← properties.keep (.string (String.ofList value)), ← linesBehind? rest)
    else if beginsPlain text then
      let (first, behind) := spanPlainLine text
      let (others, lines) ←
        if behind.isEmpty then continuePlain? least 0 lines
        else if isRemark behind then some ([], lines)
        else none
      let scalar := properties.scalar (String.ofList (trimEnd first ++ others))
      return (← properties.keep (← scalar.toDocument?), lines)
    else failure
  | [] => failure

mutual

/-- The value that begins on the next line that says something, if that line is indented by
`least` or more, or by one less for the dashes of a list behind a key; else nothing.  `fuel`
bounds the number of steps. -/
def readBlock (behindKey : Bool) : (fuel : Nat) → (properties : Properties) → (least : Nat) →
    List Line → Reading (Document × List Line)
  | 0, _, _, _ => failure
  | fuel + 1, properties, least, lines => do
    match lines.dropWhile Line.isIdle with
    | [] => return (← properties.keep (← (properties.scalar "").toDocument?), [])
    | line :: rest =>
      if line.indent < least && !(behindKey && line.isItem && line.indent + 1 == least) then
        return (← properties.keep (← (properties.scalar "").toDocument?), line :: rest)
      else if line.text.head? == some '\t' then failure
      else if line.isItem then
        let (items, lines) ← readItems fuel line.indent (line :: rest)
        return (← properties.keep (.list items), lines)
      else if (splitKey? line.text).isSome then
        let (entries, lines) ← readEntries fuel line.indent (line :: rest)
        return (← properties.keep (.record (← distinct? entries)), lines)
      else
        let (more, text) := readProperties false (line.text.length + 1) properties line.text
        if text.length < line.text.length then
          if isRemark text || text.isEmpty then readBlock behindKey fuel more least rest
          else readInline more least text rest
        else readInline properties least line.text rest
termination_by structural fuel => fuel

/-- The items of a list whose dashes have an indentation. -/
def readItems : (fuel indent : Nat) → List Line → Reading (List Document × List Line)
  | 0, _, _ => failure
  | fuel + 1, indent, lines => do
    match lines.dropWhile Line.isIdle with
    | [] => return ([], [])
    | line :: rest =>
      if line.indent < indent || (line.indent == indent && !line.isItem) then
        return ([], line :: rest)
      else if indent < line.indent then failure
      else
        let behind := line.text.drop 1
        let text := behind.dropWhile isBlank
        let inner : Line := { indent := indent + 1 + (behind.length - text.length), text }
        let (item, lines) ←
          readBlock false fuel {} (indent + 1) (if inner.isIdle then rest else inner :: rest)
        let (items, lines) ← readItems fuel indent lines
        return (item :: items, lines)
termination_by structural fuel => fuel

/-- The entries of a record whose keys have an indentation. -/
def readEntries : (fuel indent : Nat) → List Line → Reading (List (String × Document) × List Line)
  | 0, _, _ => failure
  | fuel + 1, indent, lines => do
    match lines.dropWhile Line.isIdle with
    | [] => return ([], [])
    | line :: rest =>
      if line.indent < indent then return ([], line :: rest)
      else if indent < line.indent then failure
      else
        let (key, behind) ← splitKey? line.text
        let name ← key.name?
        let (value, lines) ← readEntryValue fuel (indent + 1) behind rest
        let (entries, lines) ← readEntries fuel indent lines
        return ((name, value) :: entries, lines)
termination_by structural fuel => fuel

/-- The value behind the colon of a key. -/
def readEntryValue : (fuel least : Nat) → List Char → List Line → Reading (Document × List Line)
  | 0, _, _, _ => failure
  | fuel + 1, least, behind, lines => do
    let (properties, text) := readProperties false (behind.length + 1) {} (behind.dropWhile isBlank)
    if text.isEmpty || text.head? == some '#' then
      readBlock (properties == {}) fuel properties least lines
    else if (splitKey? text).isSome || (Line.mk 0 text).isItem then failure
    else readInline properties least text lines
termination_by structural fuel => fuel

end

/-! ## Documents -/

/-- A line that parts documents. -/
def isMarker (mark : List Char) (line : Line) : Bool :=
  line.indent == 0 && line.text.take 3 == mark && endsWord (line.text.drop 3)

/-- The lines of the only document of a text; none if there are several. -/
def documentLines? (lines : List Line) : Option (Option (List Line)) :=
  let isStart := isMarker ['-', '-', '-']
  let isEnd := isMarker ['.', '.', '.']
  let isDirective (line : Line) : Bool := line.indent == 0 && line.text.head? == some '%'
  let content (lines : List Line) : Option (Option (List Line)) :=
    let inside := lines.takeWhile fun line => !(isStart line || isEnd line)
    let behind := lines.drop inside.length
    if behind.all fun line => line.isIdle || isEnd line then some (some inside) else none
  match lines.dropWhile fun line => line.isIdle || isEnd line with
  | [] => some none
  | line :: rest =>
    if isDirective line then
      match rest.dropWhile fun line => line.isIdle || isDirective line with
      | line :: rest => if isStart line then content (Line.ofChars (line.text.drop 3) :: rest) else none
      | [] => none
    else if isStart line then content (Line.ofChars (line.text.drop 3) :: rest)
    else content (line :: rest)

end YamlText

/-- The document that a YAML text spells; a text without a document is an empty record. -/
def Document.ofYaml? (text : String) : Option Document := do
  match ← YamlText.documentLines? (YamlText.linesOf (YamlText.unifyLineEnds text.toList)) with
  | none => return .record []
  | some lines =>
    let ((document, rest), _) ←
      (YamlText.readBlock false (3 * text.length + 3) {} 0 lines).run []
    if rest.all YamlText.Line.isIdle then return document else none

end ColumnVeil
