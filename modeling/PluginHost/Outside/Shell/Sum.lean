import PluginHost.Outside.Shell.Number
import PluginHost.Outside.Shell.Word
import PluginHost.Text.Digits

/-!
Sums of a script: whole numbers of 64 bits that wrap around, variables, and
signs that bind as in C.
-/
namespace PluginHost.Shell

/-- What joins two numbers. -/
inductive Operation where
  | add | subtract | multiply | divide | remainder
  | shiftLeft | shiftRight
  | less | atMost | more | atLeast | equal | different
  | bitAnd | bitXor | bitOr
  deriving DecidableEq, Repr

/-- Join two numbers; nothing is divided by zero. -/
def Operation.apply? (a b : Int64) : Operation → Option Int64
  | .add => some (a + b)
  | .subtract => some (a - b)
  | .multiply => some (a * b)
  | .divide => if b = 0 then none else some (a / b)
  | .remainder => if b = 0 then none else some (a % b)
  | .shiftLeft => some (a <<< b)
  | .shiftRight => some (a >>> b)
  | .less => some (if a < b then 1 else 0)
  | .atMost => some (if a ≤ b then 1 else 0)
  | .more => some (if b < a then 1 else 0)
  | .atLeast => some (if b ≤ a then 1 else 0)
  | .equal => some (if a = b then 1 else 0)
  | .different => some (if a = b then 0 else 1)
  | .bitAnd => some (a &&& b)
  | .bitXor => some (a ^^^ b)
  | .bitOr => some (a ||| b)

inductive Sum where
  | number (value : Int64)
  | variable (name : String)
  | negative (body : Sum)
  | complement (body : Sum)
  | denial (body : Sum)
  | join (operation : Operation) (left right : Sum)
  | both (left right : Sum)
  | either (left right : Sum)
  | choose (condition yes no : Sum)
  /-- The value of a variable is replaced, or joined with the body. -/
  | assign (name : String) (operation : Option Operation) (body : Sum)
  deriving Repr

namespace Sum

/-! ### Signs -/

/-- A sign of a written sum. -/
inductive Sign where
  | number (value : Int64)
  | name (value : String)
  | mark (value : String)
  deriving DecidableEq

/-- The marks, longer ones first. -/
def marks : List String :=
  ["<<=", ">>=", "<<", ">>", "<=", ">=", "==", "!=", "&&", "||", "+=", "-=", "*=", "/=", "%=", "&=",
    "^=", "|=", "+", "-", "*", "/", "%", "<", ">", "=", "&", "^", "|", "~", "!", "?", ":", "(", ")"]

/-- The signs of a written sum. Each round reads one or leaves blanks behind. -/
def signsFrom? : (rounds : Nat) → List Char → Option (List Sign)
  | 0, _ => none
  | _ + 1, [] => some []
  | n + 1, c :: rest =>
    if Number.isBlank c then signsFrom? n rest
    else if c.isDigit then do
      let (value, rest) ← Number.magnitude? true (c :: rest)
      return .number (Number.clamp value) :: (← signsFrom? n rest)
    else if isNameStart c then do
      let name := String.ofList ((c :: rest).takeWhile isNameChar)
      return .name name :: (← signsFrom? n ((c :: rest).dropWhile isNameChar))
    else do
      let mark ← marks.find? fun m => m.toList.isPrefixOf (c :: rest)
      return .mark mark :: (← signsFrom? n ((c :: rest).drop mark.length))

/-! ### Reading -/

/-- What a sum is read as, from the loosest to the tightest. -/
inductive Level where
  | assignment
  | choice
  | either
  | both
  /-- Joined by a mark of the table, from its row on. -/
  | joined (rows : List (List (String × Operation)))

/-- The marks that join, the loosest first. -/
def table : List (List (String × Operation)) :=
  [[("|", .bitOr)], [("^", .bitXor)], [("&", .bitAnd)], [("==", .equal), ("!=", .different)],
    [("<", .less), ("<=", .atMost), (">", .more), (">=", .atLeast)],
    [("<<", .shiftLeft), (">>", .shiftRight)], [("+", .add), ("-", .subtract)],
    [("*", .multiply), ("/", .divide), ("%", .remainder)]]

/-- The operation of an assignment mark; none joins the old value with nothing. -/
def assignment? (mark : String) : Option (Option Operation) :=
  if mark = "=" then some none
  else
    ([("<<=", .shiftLeft), (">>=", .shiftRight), ("+=", .add), ("-=", .subtract), ("*=", .multiply),
      ("/=", .divide), ("%=", .remainder), ("&=", .bitAnd), ("^=", .bitXor),
      ("|=", .bitOr)] : List (String × Operation)).lookup mark |>.map some

/-- A reader of a sum from the start of some signs. -/
abbrev Reading := List Sign → Option (Sum × List Sign)

/-- Join what follows to the left, as long as a mark of the row joins it. -/
def joinedFrom (next : Reading) (row : List (String × Operation)) : (rounds : Nat) → Sum → Reading
  | 0, _, _ => none
  | n + 1, left, signs =>
    match signs with
    | .mark m :: rest =>
      match row.lookup m with
      | some operation => do
        let (right, rest) ← next rest
        joinedFrom next row n (.join operation left right) rest
      | none => some (left, signs)
    | _ => some (left, signs)

/-- A single number, a variable, or a sum in brackets, with what stands in front of it. -/
def single? (inner tight : Reading) : Reading
  | .number value :: rest => some (.number value, rest)
  | .name name :: rest => some (.variable name, rest)
  | .mark "(" :: rest => do
    match ← inner rest with
    | (body, .mark ")" :: rest) => some (body, rest)
    | _ => none
  | .mark "+" :: rest => tight rest
  | .mark "-" :: rest => (tight rest).map fun (body, rest) => (.negative body, rest)
  | .mark "~" :: rest => (tight rest).map fun (body, rest) => (.complement body, rest)
  | .mark "!" :: rest => (tight rest).map fun (body, rest) => (.denial body, rest)
  | _ => none

/-- Read a sum of a level. Each step goes to a tighter level or past a sign. -/
def readAt? : (steps : Nat) → Level → Reading
  | 0, _, _ => none
  | n + 1, .assignment, signs =>
    match signs with
    | .name name :: .mark m :: rest =>
      match assignment? m with
      | some operation => (readAt? n .assignment rest).map fun (body, rest) =>
          (.assign name operation body, rest)
      | none => readAt? n .choice signs
    | _ => readAt? n .choice signs
  | n + 1, .choice, signs => do
    match ← readAt? n .either signs with
    | (condition, .mark "?" :: rest) =>
      match ← readAt? n .assignment rest with
      | (yes, .mark ":" :: rest) =>
        (readAt? n .choice rest).map fun (no, rest) => (.choose condition yes no, rest)
      | _ => none
    | other => some other
  | n + 1, .either, signs => do
    match ← readAt? n .both signs with
    | (left, .mark "||" :: rest) =>
      (readAt? n .either rest).map fun (right, rest) => (.either left right, rest)
    | other => some other
  | n + 1, .both, signs => do
    match ← readAt? n (.joined table) signs with
    | (left, .mark "&&" :: rest) =>
      (readAt? n .both rest).map fun (right, rest) => (.both left right, rest)
    | other => some other
  | n + 1, .joined (row :: rows), signs => do
    let (left, rest) ← readAt? n (.joined rows) signs
    joinedFrom (readAt? n (.joined rows)) row (signs.length + 1) left rest
  | n + 1, .joined [], signs => single? (readAt? n .assignment) (readAt? n (.joined [])) signs

def read? (text : String) : Option Sum := do
  let signs ← signsFrom? (text.length + 1) text.toList
  match ← readAt? (16 * (signs.length + 1)) .assignment signs with
  | (sum, []) => some sum
  | _ => none

/-! ### Values -/

/-- The truth of a number. -/
def truth (holds : Bool) : Int64 := if holds then 1 else 0

/-- The number a variable holds; one without a value, or with blanks alone, holds zero. -/
def valueOf? (vs : Variables) (name : String) : Option Int64 :=
  let text := (vs.lookup name).getD ""
  if text.toList.all Number.isBlank then some 0 else Number.ofText? true text

/-- Work a sum out. Variables may change, and what is not needed is not worked out. -/
def value? (vs : Variables) : Sum → Option (Int64 × Variables)
  | .number value => some (value, vs)
  | .variable name => (valueOf? vs name).map (·, vs)
  | .negative body => (value? vs body).map fun (x, vs) => (-x, vs)
  | .complement body => (value? vs body).map fun (x, vs) => (~~~x, vs)
  | .denial body => (value? vs body).map fun (x, vs) => (truth (x == 0), vs)
  | .join operation left right => do
    let (a, vs) ← value? vs left
    let (b, vs) ← value? vs right
    return (← operation.apply? a b, vs)
  | .both left right => do
    let (a, vs) ← value? vs left
    if a = 0 then return (0, vs)
    let (b, vs) ← value? vs right
    return (truth (b != 0), vs)
  | .either left right => do
    let (a, vs) ← value? vs left
    if a ≠ 0 then return (1, vs)
    let (b, vs) ← value? vs right
    return (truth (b != 0), vs)
  | .choose condition yes no => do
    let (a, vs) ← value? vs condition
    if a ≠ 0 then value? vs yes else value? vs no
  | .assign name operation body => do
    let (b, vs) ← value? vs body
    let result ← match operation with
      | some operation => operation.apply? (← valueOf? vs name) b
      | none => some b
    return (result, vs.set name (Text.ofInt result.toInt))

end Sum

end PluginHost.Shell
