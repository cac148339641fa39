import ColumnVeil.Settings.Yaml.Scalar

/-!
# Flow notation of YAML

Lists in brackets, records in braces, and the scalars in them, over any number of lines.
Anchors give values names, under which they can be repeated.
-/

namespace ColumnVeil.YamlText

/-- The values that have been given names. -/
abbrev Anchors := List (String × Document)

/-- Reading with the names that have been given so far. -/
abbrev Reading := StateT Anchors Option

/-- The properties of a value: its tag and its name. -/
structure Properties where
  tag : Option String := none
  anchor : Option String := none
deriving DecidableEq, Repr

/-- Remember a value under its name. -/
def Properties.keep (properties : Properties) (value : Document) : Reading Document := do
  match properties.anchor with
  | some name => modify ((name, value) :: ·)
  | none => pure ()
  return value

/-- The value of a scalar without quotes under its properties. -/
def Properties.scalar (properties : Properties) (text : String) : Scalar :=
  match properties.tag with
  | some tag => .ofTagged tag text
  | none => .ofPlain text

/-- The value that has been given a name, or nothing. -/
def repeated (name : String) : Reading Document := do
  return ((← get).lookup name).getD .null

/-- A character that has a meaning of its own between brackets and braces. -/
def isFlowMark (character : Char) : Bool :=
  [',', '[', ']', '\x7b', '\x7d'].contains character

/-- A word up to a blank, a line end or, in flow notation, a mark. -/
def spanWord (inFlow : Bool) (rest : Rest) : List Char × Rest :=
  rest.span fun character =>
    !(isBlank character || character == '\n' || (inFlow && isFlowMark character))

/-- The properties in front of a value, and what follows them and the blanks behind them. -/
def readProperties (inFlow : Bool) : (fuel : Nat) → Properties → Rest → Properties × Rest
  | 0, properties, rest => (properties, rest)
  | fuel + 1, properties, rest =>
    let (word, behind) := spanWord inFlow rest
    match word with
    | '!' :: _ =>
      readProperties inFlow fuel { properties with tag := some (String.ofList word) }
        (behind.dropWhile isBlank)
    | '&' :: name =>
      readProperties inFlow fuel { properties with anchor := some (String.ofList name) }
        (behind.dropWhile isBlank)
    | _ => (properties, rest)

/-- Pass over blanks, line ends and comments. -/
def skipFlowSpace : (fuel : Nat) → Rest → Rest
  | 0, rest => rest
  | fuel + 1, rest =>
    let behind := rest.dropWhile fun character => isBlank character || character == '\n'
    match behind with
    | '#' :: _ =>
      if behind.length < rest.length then skipFlowSpace fuel (behind.dropWhile (· != '\n')) else behind
    | _ => behind

/-- The end of a key in flow notation: a colon in front of a blank, a line end or a mark. -/
def isKeyEnd : Rest → Bool
  | ':' :: rest => endsWord rest || rest.head?.any isFlowMark
  | _ => false

/-- A scalar without quotes in flow notation, and what follows it. -/
def spanPlain : (fuel : Nat) → Rest → List Char × Rest
  | 0, rest => ([], rest)
  | _, [] => ([], [])
  | fuel + 1, character :: rest =>
    if isFlowMark character || isKeyEnd (character :: rest) then ([], character :: rest)
    else
      let blanks := (character :: rest).takeWhile fun next => isBlank next || next == '\n'
      match (character :: rest).drop blanks.length with
      | [] => ([], [])
      | next :: behind =>
        if blanks.isEmpty then
          let (others, rest) := spanPlain fuel rest
          (character :: others, rest)
        else if next == '#' || isFlowMark next || isKeyEnd (next :: behind) then
          ([], character :: rest)
        else
          let lines := blanks.count '\n'
          let between := if lines = 0 then blanks else folded (lines - 1)
          let (others, rest) := spanPlain fuel (next :: behind)
          (between ++ others, rest)

/-- A character that cannot begin a scalar without quotes. -/
def isIndicator (character : Char) : Bool :=
  isFlowMark character || ['#', '&', '*', '!', '|', '>', '\'', '"', '%', '@', '\x60'].contains character

/-- A scalar without quotes may begin here. -/
def beginsPlain : Rest → Bool
  | [] => false
  | character :: rest =>
    if character == '-' || character == '?' || character == ':' then
      !(endsWord rest || rest.head?.any isFlowMark)
    else !isIndicator character

/-- The entries of a record, of which no two may have one name. -/
def distinct? (entries : List (String × Document)) : Option (List (String × Document)) :=
  if (entries.map Prod.fst).Nodup then some entries else none

/-- A scalar in flow notation, and what follows it. -/
def readFlowScalar? (properties : Properties) (rest : Rest) : Option (Scalar × Rest) :=
  match rest with
  | '"' :: rest =>
    (readQuoted? '"' 0 (rest.length + 1) rest).map fun (text, rest) => (.string (String.ofList text), rest)
  | '\'' :: rest =>
    (readQuoted? '\'' 0 (rest.length + 1) rest).map fun (text, rest) => (.string (String.ofList text), rest)
  | rest =>
    if beginsPlain rest then
      let (text, rest) := spanPlain (rest.length + 1) rest
      some (properties.scalar (String.ofList text), rest)
    else if rest.head?.any (fun next => isFlowMark next && next != '[' && next != '\x7b') || isKeyEnd rest then
      some (properties.scalar "", rest)
    else none

/-- What follows the colon behind a key; behind quotes the colon needs no blank after it. -/
def afterColon? (quoted : Bool) (rest : Rest) : Option Rest :=
  match skipFlowSpace (rest.length + 1) rest with
  | ':' :: behind => if quoted || isKeyEnd (':' :: behind) then some behind else none
  | _ => none

/-- A text in quotes begins here. -/
def isQuoted (rest : Rest) : Bool :=
  rest.head? == some '"' || rest.head? == some '\''

mutual

/-- A value in flow notation, and what follows it; `fuel` bounds the number of steps. -/
def readFlow : (fuel : Nat) → Rest → Reading (Document × Rest)
  | 0, _ => failure
  | fuel + 1, rest => do
    let rest := skipFlowSpace (rest.length + 1) rest
    let (properties, rest) := readProperties true (rest.length + 1) {} rest
    match rest with
    | '*' :: rest =>
      let (name, rest) := spanWord true rest
      return (← repeated (String.ofList name), rest)
    | '[' :: rest =>
      let (items, rest) ← readFlowItems fuel rest
      return (← properties.keep (.list items), rest)
    | '\x7b' :: rest =>
      let (entries, rest) ← readFlowEntries fuel rest
      return (← properties.keep (.record (← distinct? entries)), rest)
    | rest =>
      let (scalar, rest) ← readFlowScalar? properties rest
      return (← properties.keep (← scalar.toDocument?), rest)

/-- The items of a list behind its bracket or a comma, and what follows the list. -/
def readFlowItems : (fuel : Nat) → Rest → Reading (List Document × Rest)
  | 0, _ => failure
  | fuel + 1, rest => do
    let rest := skipFlowSpace (rest.length + 1) rest
    match rest with
    | ']' :: rest => return ([], rest)
    | ',' :: _ => failure
    | rest =>
      let (item, behind) ← readFlow fuel rest
      let (item, behind) ← match afterColon? (isQuoted rest) behind with
        | some behind => do
          let (scalar, _) ← readFlowScalar? {} rest
          let (value, behind) ← readFlow fuel behind
          pure (.record [(← scalar.name?, value)], behind)
        | none => pure (item, behind)
      match skipFlowSpace (behind.length + 1) behind with
      | ',' :: behind =>
        let (items, behind) ← readFlowItems fuel behind
        return (item :: items, behind)
      | ']' :: behind => return ([item], behind)
      | _ => failure

/-- The entries of a record behind its brace or a comma, and what follows the record. -/
def readFlowEntries : (fuel : Nat) → Rest → Reading (List (String × Document) × Rest)
  | 0, _ => failure
  | fuel + 1, rest => do
    let rest := skipFlowSpace (rest.length + 1) rest
    match rest with
    | '\x7d' :: rest => return ([], rest)
    | ',' :: _ => failure
    | rest =>
      let (properties, rest) := readProperties true (rest.length + 1) {} rest
      let (key, behind) ← readFlowScalar? properties rest
      let name ← key.name?
      let (value, behind) ← match afterColon? (isQuoted rest) behind with
        | some behind => readFlow fuel behind
        | none => pure (.null, behind)
      match skipFlowSpace (behind.length + 1) behind with
      | ',' :: behind =>
        let (entries, behind) ← readFlowEntries fuel behind
        return ((name, value) :: entries, behind)
      | '\x7d' :: behind => return ([(name, value)], behind)
      | _ => failure

end

end ColumnVeil.YamlText
