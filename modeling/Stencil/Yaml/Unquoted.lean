import Stencil.Yaml.Cursor

/-!
# Scalars without quotes

Plain scalars, which end where a sign of the notation begins, and block scalars, which hold the lines that
are indented far enough.
-/
namespace Stencil.Yaml.Cursor

/-! ### Plain scalars -/

/-- How many characters belong to a plain scalar on this line. -/
def plainLength (inFlow : Bool) : List Char → Nat
  | [] => 0
  | x :: rest =>
    let glued := match rest with
      | [] => false
      | y :: _ => !isEndOrBlank y
    if x = ':' && glued then plainLength inFlow rest + 1
    else if x = '?' then plainLength inFlow rest + 1
    else if isEndOrBlank x || x = ':' && !inFlow then 0
    else if inFlow && [',', ':', '[', ']', '{', '}'].contains x then 0
    else plainLength inFlow rest + 1

/-- The line ends of empty lines; none if the document ends there. -/
def plainBreaks : Nat → List Char → Cursor → Option (List Char) × Cursor
  | 0, done, c => (some done.reverse, c)
  | fuel + 1, done, c =>
    let c := c.skipSpaces
    match c.lineBreak? with
    | some (x, c) =>
      if c.atCut then (none, c) else plainBreaks fuel (x :: done) c
    | none => (some done.reverse, c)

/-- The blanks after a word: what they stand for inside the scalar, and whether a line ended. -/
def plainBlanks (c : Cursor) : List Char × Bool × Cursor :=
  let (taken, c) := c.span (· = ' ')
  match c.lineBreak? with
  | some (x, c) =>
    if c.atCut then ([], true, c)
    else
      match plainBreaks (c.rest.length + 1) [] c with
      | (none, c) => ([], true, c)
      | (some more, c) =>
        (if x ≠ '\n' then x :: more else if more.isEmpty then [' '] else more, true, c)
  | none => (taken, false, c)

/-- A plain scalar, and whether the reading ended at the beginning of a line. -/
structure Plain where
  text : List Char
  atLineStart : Bool
  cursor : Cursor

def plainFrom (inFlow : Bool) (indent : Int) : Nat → Plain → List Char → Plain
  | 0, p, _ => p
  | fuel + 1, p, blanks =>
    let c := p.cursor
    let n := plainLength inFlow c.rest
    if c.peek 0 = '#' || n = 0 then p
    else
      let text := p.text ++ blanks ++ c.rest.take n
      let (blanks, ended, c) := plainBlanks (c.advance n)
      let p := ⟨text, ended, c⟩
      if blanks.isEmpty || c.peek 0 = '#' || (!inFlow && (c.column : Int) < indent) then p
      else plainFrom inFlow indent fuel p blanks

/-- The plain scalar that begins here, where lines that go on with it are indented by `indent`. -/
def plain (inFlow : Bool) (indent : Int) (c : Cursor) : Plain :=
  plainFrom inFlow indent (c.rest.length + 1) ⟨[], false, c⟩ []

/-! ### Block scalars -/

/-- What becomes of the line ends after the last line: all stay, none stays, or one. -/
inductive Chomping where
  | keep
  | strip
  | clip

def chomping? : Char → Option Chomping
  | '+' => some .keep
  | '-' => some .strip
  | _ => none

/-- A digit that says how far the lines are indented. -/
def increment? (c : Cursor) : Except Fault (Option Nat × Cursor) :=
  let x := c.peek 0
  if x = '0' then .error .badHeader
  else if x.isDigit then .ok (some (x.toNat - 48), c.step)
  else .ok (none, c)

/-- The signs after a bar or an angle, in either order. -/
def blockHeader (c : Cursor) : Except Fault (Chomping × Option Nat × Cursor) := do
  let (chomping, increment, c) ←
    match chomping? (c.peek 0) with
    | some chomping => do
      let (n, c) ← increment? c.step
      pure (chomping, n, c)
    | none => do
      let (n, c) ← increment? c
      match n, chomping? (c.peek 0) with
      | some n, some chomping => pure (chomping, some n, c.step)
      | n, _ => pure (Chomping.clip, n, c)
  if c.peek 0 = ' ' || isBreakOrEnd (c.peek 0) then
    return (chomping, increment, ← c.restOfLine .badHeader)
  else .error .badHeader

/-- The empty lines at the head, the column of the first of them and the widest indentation. -/
structure Lead where
  breaks : List Char
  first : Option Nat
  widest : Nat
  cursor : Cursor

def leadFrom : Nat → Lead → Lead
  | 0, l => l
  | fuel + 1, l =>
    let c := l.cursor
    if c.peek 0 = ' ' then
      let c := c.step
      leadFrom fuel { l with cursor := c, widest := max l.widest c.column }
    else
      match c.lineBreak? with
      | some (x, next) =>
        leadFrom fuel ⟨l.breaks ++ [x], some (l.first.getD c.column), l.widest, next⟩
      | none => l

/-- Skips at most as many spaces as reach the column. -/
def skipToColumn (column : Nat) (c : Cursor) : Cursor :=
  c.advance ((c.rest.take (column - c.column)).takeWhile (· = ' ')).length

/-- The line ends of lines that are empty up to the column. -/
def breaksTo (column : Nat) : Nat → List Char → Cursor → List Char × Cursor
  | 0, done, c => (done.reverse, c)
  | fuel + 1, done, c =>
    let c := c.skipToColumn column
    match c.lineBreak? with
    | some (x, c) => breaksTo column fuel (x :: done) c
    | none => (done.reverse, c)

/-- The lines of a block scalar, the line end after the last and those of empty lines behind it. -/
structure Lines where
  text : List Char
  lineEnd : List Char
  breaks : List Char
  cursor : Cursor

def linesFrom (isFolded : Bool) (column : Nat) (atTop : Bool) : Nat → Lines → Lines
  | 0, l => l
  | fuel + 1, l =>
    let c := l.cursor
    if c.column ≠ column || c.peek 0 = '\x00' then l
    else
      let startsWithBlank := c.peek 0 = ' ' || c.peek 0 = '\t'
      let (line, c) := c.span (!isBreakOrEnd ·)
      let lineEnd := match c.lineBreak? with
        | some (x, _) => [x]
        | none => []
      let c := c.skipBreak
      let (breaks, c) := breaksTo column (c.rest.length + 1) [] c
      let text := l.text ++ l.breaks ++ line
      let documentEnds := atTop && (c.atMarker '-' || c.atMarker '.')
      if documentEnds || c.column ≠ column || c.peek 0 = '\x00' then
        ⟨text, lineEnd, breaks, c⟩
      else
        let nextBlank := c.peek 0 = ' ' || c.peek 0 = '\t'
        let joined :=
          if isFolded && lineEnd = ['\n'] && !startsWithBlank && !nextBlank then
            if breaks.isEmpty then [' '] else []
          else lineEnd
        linesFrom isFolded column atTop fuel ⟨text ++ joined, lineEnd, breaks, c⟩

/-- The block scalar that begins here, inside a collection indented by `indent`. -/
def block (indent : Int) (c : Cursor) : Except Fault (String × Cursor) := do
  let isFolded := c.peek 0 = '>'
  let (chomping, increment, c) ← blockHeader c.step
  let least := (indent + 1).toNat
  let (column, breaks, c) ←
    match increment with
    | none => do
      let l := leadFrom (c.rest.length + 1) ⟨[], none, 0, c⟩
      match l.first with
      | some first =>
        if 0 < first && first < l.widest then .error .badIndentation
        else pure (max least l.widest, l.breaks, l.cursor)
      | none => pure (max least l.widest, l.breaks, l.cursor)
    | some n =>
      let column := max least 1 + n - 1
      let (breaks, c) := breaksTo column (c.rest.length + 1) [] c
      pure (column, breaks, c)
  let l := linesFrom isFolded column (least = 0 && increment.isNone) (c.rest.length + 1)
    ⟨[], [], breaks, c⟩
  let tail := match chomping with
    | .keep => l.lineEnd ++ l.breaks
    | .clip => l.lineEnd
    | .strip => []
  return (String.ofList (l.text ++ tail), l.cursor)

end Stencil.Yaml.Cursor
