import Lettering.Text.Decimal
import Lettering.Regex.Bracket

/-!
# Reading patterns

A pattern is read in one pass with a stack of open groups. The reader holds the concatenation at
hand, the finished alternatives beside it, and the flags; a group puts all of these aside and
takes the flags back when it closes.

* A repetition takes the item before it; flags and the start of an alternative are no items.
* Group names are made of letters, digits and a few signs, and none occurs twice.
* Nothing may be nested deeper than `maxDepth`.
-/

namespace Lettering.Regex

/-- The deepest nesting of groups, repetitions, brackets, alternatives and concatenations. -/
def maxDepth : Nat := 250

/-- An item of a concatenation. Flags take a place among the items but cannot be repeated. -/
structure Item where
  expr : Expr
  depth : Nat
  repeatable : Bool

/-- What an open group has put aside. -/
structure GroupFrame where
  flags : Flags
  index : Option Nat
  branches : List Item
  items : List Item

/-- The reader between two tokens: lists have the latest entry first. -/
structure Reader where
  flags : Flags
  branches : List Item
  items : List Item
  frames : List GroupFrame
  groups : Nat
  names : List (String × Nat)

namespace Reader

/-- The reader at the start of a pattern; group 0 is the whole match. -/
def initial : Reader := ⟨{}, [], [], [], 1, []⟩

/-- Adds an item. -/
def push (r : Reader) (expr : Expr) (depth : Nat) : Reader :=
  { r with items := ⟨expr, depth, true⟩ :: r.items }

/-- The items at hand as one. -/
def concatenation (items : List Item) : Item :=
  match items with
  | [] => ⟨.empty, 0, false⟩
  | [item] => item
  | item :: rest =>
    ⟨rest.foldl (fun e i => .concat i.expr e) item.expr,
      1 + rest.foldl (fun d i => Nat.max d i.depth) item.depth, true⟩

/-- The alternatives and the items at hand as one. -/
def alternation (branches items : List Item) : Item :=
  let last := concatenation items
  match branches with
  | [] => last
  | branches =>
    ⟨branches.foldl (fun e i => .alt i.expr e) last.expr,
      1 + branches.foldl (fun d i => Nat.max d i.depth) last.depth, true⟩

/-- Repeats the last item. -/
def repeatLast (r : Reader) (min : Nat) (max : Option Nat) (greedy : Bool) : Option Reader :=
  match r.items with
  | [] => none
  | item :: rest =>
    if item.repeatable then
      let expr := item.expr.repeated min max (greedy != r.flags.swapGreed)
      some { r with items := ⟨expr, 1 + item.depth, true⟩ :: rest }
    else none

/-! ## 1. Repetitions -/

/-- Splits off the question mark that makes a repetition lazy. -/
def lazyMark : List Char → Bool × List Char
  | '?' :: rest => (false, rest)
  | cs => (true, cs)

/-- Reads a count with the blanks around it. -/
def count (fl : Flags) (cs : List Char) : Option (Nat × List Char) :=
  let cs := cs.dropWhile fun c => Unicode.isBlank c.toNat
  let (digits, after) := fl.gather (fun c => (Text.digit? c).isNone) cs.length cs
  (Text.readDigits digits).bind fun n =>
    if n < UInt32.size then some (n, after.dropWhile fun c => Unicode.isBlank c.toNat) else none

/-- Reads the counts of a repetition behind its opening brace, up to and without the closing
brace. -/
def counts (fl : Flags) (cs : List Char) : Option ((Nat × Option Nat) × List Char) := do
  let (min, cs) ← count fl (fl.skip cs)
  match cs with
  | ',' :: rest =>
    match fl.skip rest with
    | '\x7d' :: after => some ((min, none), '\x7d' :: after)
    | rest =>
      let (max, after) ← count fl rest
      some ((min, some max), after)
  | cs => some ((min, some min), cs)

/-- Reads a repetition behind its opening brace. -/
def counted (r : Reader) (cs : List Char) : Option (Reader × List Char) := do
  let ((min, max), cs) ← counts r.flags cs
  match cs with
  | '\x7d' :: rest =>
    let (greedy, after) := lazyMark (r.flags.skip rest)
    if max.all (min ≤ ·) then return (← r.repeatLast min max greedy, after) else none
  | _ => none

/-! ## 2. Groups -/

/-- Whether a character may occur in a group name. -/
def isNameChar (first : Bool) (c : Char) : Bool :=
  c == '_' || Unicode.isAlphabetic c.toNat ||
    (!first && (c == '.' || c == '[' || c == ']' || Unicode.isNumeric c.toNat))

/-- Reads a group name up to its closing angle. -/
def groupName (r : Reader) (cs : List Char) : Option (String × List Char) :=
  match cs.takeWhile (· != '>'), cs.dropWhile (· != '>') with
  | first :: more, _ :: rest =>
    let name := String.ofList (first :: more)
    if isNameChar true first && more.all (isNameChar false) && (r.names.lookup name).isNone then
      some (name, rest)
    else none
  | _, _ => none

/-- The flags that a letter turns on or off. -/
def setFlag (fl : Flags) (on : Bool) : Char → Option Flags
  | 'i' => some { fl with caseless := on }
  | 'm' => some { fl with multiLine := on }
  | 's' => some { fl with dotAll := on }
  | 'U' => some { fl with swapGreed := on }
  | 'u' => some { fl with unicode := on }
  | 'x' => some { fl with verbose := on }
  | 'R' => some { fl with crlf := on }
  | _ => none

/-- Reads flags up to a colon or closing parenthesis. No letter may occur twice, and a hyphen at
most once and not last; `seen` holds the letters and hyphens so far, newest first. -/
def readFlags (fl : Flags) (on : Bool) (seen : List Char) :
    List Char → Option (Flags × List Char × List Char)
  | [] => none
  | c :: rest =>
    if c == ':' || c == ')' then
      if seen.head? == some '-' then none else some (fl, seen, c :: rest)
    else if seen.contains c then none
    else if c == '-' then readFlags fl false ('-' :: seen) rest
    else (setFlag fl on c).bind fun fl => readFlags fl on (c :: seen) rest

/-- Opens a group with the given flags inside. -/
def openGroup (r : Reader) (flags : Flags) (index : Option Nat) : Reader :=
  { r with
    flags, branches := [], items := []
    frames := ⟨r.flags, index, r.branches, r.items⟩ :: r.frames }

/-- Opens a group that captures, under a name if it has one. -/
def openCapture (r : Reader) (name : Option String) : Reader :=
  let r' := r.openGroup r.flags (some r.groups)
  { r' with groups := r.groups + 1, names := name.toList.map (·, r.groups) ++ r.names }

/-- Reads what follows an opening parenthesis. -/
def group (r : Reader) (cs : List Char) : Option (Reader × List Char) :=
  match r.flags.skip cs with
  | '?' :: '=' :: _ => none
  | '?' :: '!' :: _ => none
  | '?' :: '<' :: '=' :: _ => none
  | '?' :: '<' :: '!' :: _ => none
  | '?' :: 'P' :: '<' :: rest => (r.groupName rest).map fun (name, rest) =>
      (r.openCapture (some name), rest)
  | '?' :: '<' :: rest => (r.groupName rest).map fun (name, rest) =>
      (r.openCapture (some name), rest)
  | '?' :: rest => do
    let (flags, seen, rest) ← readFlags r.flags true [] rest
    match rest with
    | ':' :: rest => some (r.openGroup flags none, rest)
    | _ :: rest =>
      if seen.isEmpty then none
      else some ({ r with flags, items := ⟨.empty, 0, false⟩ :: r.items }, rest)
    | [] => none
  | cs => some (r.openCapture none, cs)

/-- Closes the innermost group. -/
def closeGroup (r : Reader) : Option Reader :=
  match r.frames with
  | [] => none
  | frame :: frames =>
    let inner := alternation r.branches r.items
    let expr := match frame.index with
      | some index => .group index inner.expr
      | none => inner.expr
    some { r with
      flags := frame.flags, branches := frame.branches, frames
      items := ⟨expr, 1 + inner.depth, true⟩ :: frame.items }

/-! ## 3. The whole pattern -/

/-- Reads one token. -/
def token (r : Reader) (c : Char) (rest : List Char) : Option (Reader × List Char) :=
  match c with
  | '(' => r.group rest
  | ')' => r.closeGroup.map (·, rest)
  | '|' => some ({ r with branches := concatenation r.items :: r.branches, items := [] }, rest)
  | '[' => do
    let (operand, rest) ← r.flags.bracket rest
    return (r.push (.cls operand.cls) operand.depth, rest)
  | '?' =>
    let (greedy, rest) := lazyMark rest
    (r.repeatLast 0 (some 1) greedy).map (·, rest)
  | '*' =>
    let (greedy, rest) := lazyMark rest
    (r.repeatLast 0 none greedy).map (·, rest)
  | '+' =>
    let (greedy, rest) := lazyMark rest
    (r.repeatLast 1 none greedy).map (·, rest)
  | '\x7b' => r.counted rest
  | '.' => r.flags.dot.map fun e => (r.push e 0, rest)
  | '^' => some (r.push (.look r.flags.caret) 0, rest)
  | '$' => some (r.push (.look r.flags.dollar) 0, rest)
  | '\\' => do
    let (p, rest) ← r.flags.escape rest
    return (r.push (← r.flags.primitiveExpr p) 0, rest)
  | c => (r.flags.literalExpr c false).map fun e => (r.push e 0, rest)

/-- Reads tokens to the end. -/
def run (r : Reader) : Nat → List Char → Option Reader
  | 0, _ => none
  | fuel + 1, cs =>
    match r.flags.skip cs with
    | [] => some r
    | c :: rest =>
      match r.token c rest with
      | some (r, rest) => r.run fuel rest
      | none => none

end Reader

/-- A pattern as read: its expression, the number of groups and the names of some. -/
structure Reading where
  expr : Expr
  groups : Nat
  names : List (String × Nat)

/-- Reads a pattern; `none` if it is invalid. -/
def read? (pattern : String) : Option Reading := do
  let cs := pattern.toList
  let r ← Reader.initial.run (cs.length + 1) cs
  let whole := Reader.alternation r.branches r.items
  if r.frames.isEmpty && whole.depth ≤ maxDepth then some ⟨whole.expr, r.groups, r.names⟩
  else none

end Lettering.Regex
