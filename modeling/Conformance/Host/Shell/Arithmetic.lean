import Conformance.Host.Shell.Integer

/-!
# Arithmetic of the shell

* `Fault` : why an expression has no value;
* `Expression` : an expression with integers, variables and operators;
* `evaluate` : the value of an expression, and the variables that it sets.
-/

namespace Conformance.Shell.Arithmetic

/-- Why an expression has no value. -/
inductive Fault where
  /-- Something else has to stand somewhere. -/
  | lacks (expected : String)
  /-- A number was divided by zero. -/
  | division
  /-- The value of a variable is no number. -/
  | illegal (value : String)
  deriving DecidableEq, Repr

/-- The words for a fault in an expression. -/
def Fault.message (expression : String) : Fault → String
  | .lacks expected => s!"arithmetic expression: expecting {expected}: \"{expression}\""
  | .division => s!"arithmetic expression: division by zero: \"{expression}\""
  | .illegal value => s!"Illegal number: {value}"

/-- A token of an expression. -/
inductive Token where
  | number (n : Int)
  /-- A variable. -/
  | name (s : String)
  /-- An operator or a bracket. -/
  | symbol (s : String)
  deriving DecidableEq, Repr

/-- Symbols of more than one character, the longest first. -/
def longSymbols : List String :=
  ["<<=", ">>=", "||", "&&", "==", "!=", "<=", ">=", "<<", ">>", "+=", "-=", "*=", "/=", "%=", "&=",
    "|=", "^="]

/-- The tokens of a text. The first argument bounds the number of steps. -/
def tokens : Nat → List Char → List Token
  | 0, _ => []
  | _, [] => []
  | fuel + 1, c :: rest =>
    if c.isWhitespace then tokens fuel rest
    else
      match leadingNatural? (c :: rest) with
      | some (n, rest) => .number (saturate n) :: tokens fuel rest
      | none =>
        if c.isAlpha || c = '_' then
          let name := (c :: rest).takeWhile fun c => c.isAlphanum || c = '_'
          .name (String.ofList name) :: tokens fuel ((c :: rest).drop name.length)
        else
          match longSymbols.find? fun s => s.toList.isPrefixOf (c :: rest) with
          | some s => .symbol s :: tokens fuel ((c :: rest).drop s.length)
          | none => .symbol (String.singleton c) :: tokens fuel rest

/-- An expression. -/
inductive Expression where
  | number (n : Int)
  | value (name : String)
  /-- Sets a variable to a value, or to what an operator makes of the old and a new one. -/
  | assign (name : String) (op : Option String) (value : Expression)
  /-- An operator in front of an operand. -/
  | unary (op : String) (operand : Expression)
  | binary (op : String) (left right : Expression)
  /-- One of two operands, as a test decides. -/
  | choice (test yes no : Expression)
  deriving Repr

/-! ## Reading -/

/-- The operators between two operands by strength, the weakest first. -/
def levels : List (List String) :=
  [["||"], ["&&"], ["|"], ["^"], ["&"], ["==", "!="], ["<", "<=", ">", ">="], ["<<", ">>"],
    ["+", "-"], ["*", "/", "%"]]

/-- The operator that an assignment applies, if a symbol is one that assigns. -/
def assigning? (s : String) : Option (Option String) :=
  if s = "=" then some none
  else if ["+=", "-=", "*=", "/=", "%=", "&=", "|=", "^=", "<<=", ">>="].contains s then
    some (some (s.dropEnd 1).toString)
  else none

mutual

/-- An operand, and what follows. -/
def operand : Nat → List Token → Except Fault (Expression × List Token)
  | 0, _ => .error (.lacks "primary")
  | fuel + 1, ts =>
    match ts with
    | .number n :: rest => .ok (.number n, rest)
    | .name s :: rest => .ok (.value s, rest)
    | .symbol "(" :: rest => do
      match ← assignment fuel rest with
      | (e, .symbol ")" :: rest) => return (e, rest)
      | _ => .error (.lacks "')'")
    | .symbol op :: rest =>
      if ["-", "+", "!", "~"].contains op then
        (operand fuel rest).map fun r => (.unary op r.1, r.2)
      else .error (.lacks "primary")
    | [] => .error (.lacks "primary")

/-- An assignment, or operands with any operators between them. -/
def assignment : Nat → List Token → Except Fault (Expression × List Token)
  | 0, _ => .error (.lacks "primary")
  | fuel + 1, ts =>
    match ts with
    | .name s :: .symbol op :: rest =>
      match assigning? op with
      | some op => (assignment fuel rest).map fun r => (.assign s op r.1, r.2)
      | none => choice fuel ts
    | _ => choice fuel ts

/-- Operands with any operators between them, one of two of them if a question mark follows. -/
def choice : Nat → List Token → Except Fault (Expression × List Token)
  | 0, _ => .error (.lacks "primary")
  | fuel + 1, ts => do
    let (test, rest) ← level fuel levels ts
    match rest with
    | .symbol "?" :: rest =>
      match ← assignment fuel rest with
      | (yes, .symbol ":" :: rest) =>
        let (no, rest) ← choice fuel rest
        return (.choice test yes no, rest)
      | _ => .error (.lacks "':'")
    | rest => return (test, rest)

/-- Operands with operators of the given levels between them, and what follows. -/
def level : Nat → List (List String) → List Token → Except Fault (Expression × List Token)
  | 0, _, _ => .error (.lacks "primary")
  | fuel + 1, [], ts => operand fuel ts
  | fuel + 1, ops :: stronger, ts => do
    let (first, rest) ← level fuel stronger ts
    more fuel ops stronger first rest

/-- The rest of operands with operators of one level between them. -/
def more : Nat → List String → List (List String) → Expression → List Token →
    Except Fault (Expression × List Token)
  | 0, _, _, _, _ => .error (.lacks "primary")
  | fuel + 1, ops, stronger, first, ts =>
    match ts with
    | .symbol op :: rest =>
      if ops.contains op then do
        let (second, rest) ← level fuel stronger rest
        more fuel ops stronger (.binary op first second) rest
      else .ok (first, ts)
    | _ => .ok (first, ts)

end

/-- The expression of a text. -/
def Expression.parse (text : String) : Except Fault Expression := do
  let ts := tokens (text.length + 1) text.toList
  let (e, rest) ← assignment (30 * ts.length + 30) ts
  if rest.isEmpty then return e else .error (.lacks "EOF")

/-! ## Values -/

/-- The number of a truth value. -/
def ofBool (b : Bool) : Int := if b then 1 else 0

/-- What an operator makes of the bits of two numbers. -/
def bitwise (f : BitVec 64 → BitVec 64 → BitVec 64) (a b : Int) : Int :=
  (f (BitVec.ofInt 64 a) (BitVec.ofInt 64 b)).toInt

/-- The value of an operator between two operands that both have values. -/
def combine (op : String) (a b : Int) : Except Fault Int :=
  match op with
  | "|" => .ok (bitwise (· ||| ·) a b)
  | "^" => .ok (bitwise (· ^^^ ·) a b)
  | "&" => .ok (bitwise (· &&& ·) a b)
  | "==" => .ok (ofBool (a = b))
  | "!=" => .ok (ofBool (a ≠ b))
  | "<" => .ok (ofBool (a < b))
  | "<=" => .ok (ofBool (a ≤ b))
  | ">" => .ok (ofBool (a > b))
  | ">=" => .ok (ofBool (a ≥ b))
  | "<<" => .ok (wrap (a * Nat.pow 2 (b % 64).toNat))
  | ">>" => .ok (a / Nat.pow 2 (b % 64).toNat)
  | "+" => .ok (wrap (a + b))
  | "-" => .ok (wrap (a - b))
  | "*" => .ok (wrap (a * b))
  | "/" => if b = 0 then .error .division else .ok (wrap (a.tdiv b))
  | "%" => if b = 0 then .error .division else .ok (wrap (a.tmod b))
  | _ => .error (.lacks "primary")

/-- The number that the value of a variable denotes; no value counts as zero. -/
def valueOf (value : Option String) : Except Fault Int :=
  let s := value.getD ""
  match leadingInteger? s.toList with
  | some (n, rest) => if rest.all Char.isWhitespace then .ok (saturate n) else .error (.illegal s)
  | none => if s.toList.all Char.isWhitespace then .ok 0 else .error (.illegal s)

/-- The value of an expression, and the variables that are set with those that were set before,
the last one first. -/
def Expression.evaluate (lookup : String → Option String) :
    Expression → List (String × Int) → Except Fault (Int × List (String × Int))
  | .number n, set => .ok (n, set)
  | .value name, set => do
    match set.lookup name with
    | some n => return (n, set)
    | none => return (← valueOf (lookup name), set)
  | .assign name op e, set => do
    let (n, set) ← e.evaluate lookup set
    match op with
    | none => return (n, (name, n) :: set)
    | some op =>
      let old ← match set.lookup name with
        | some n => Except.ok n
        | none => valueOf (lookup name)
      let n ← combine op old n
      return (n, (name, n) :: set)
  | .unary op e, set => do
    let (n, set) ← e.evaluate lookup set
    let n := match op with
      | "-" => wrap (-n)
      | "!" => ofBool (n = 0)
      | "~" => -n - 1
      | _ => n
    return (n, set)
  | .binary "&&" a b, set => do
    let (n, set) ← a.evaluate lookup set
    if n = 0 then return (0, set)
    else
      let (n, set) ← b.evaluate lookup set
      return (ofBool (n ≠ 0), set)
  | .binary "||" a b, set => do
    let (n, set) ← a.evaluate lookup set
    if n ≠ 0 then return (1, set)
    else
      let (n, set) ← b.evaluate lookup set
      return (ofBool (n ≠ 0), set)
  | .binary op a b, set => do
    let (x, set) ← a.evaluate lookup set
    let (y, set) ← b.evaluate lookup set
    return (← combine op x y, set)
  | .choice test yes no, set => do
    let (n, set) ← test.evaluate lookup set
    if n ≠ 0 then yes.evaluate lookup set else no.evaluate lookup set

/-- The value of a text as an expression, where `lookup` gives the values of variables, and the
variables that it sets, the last one first. -/
def evaluate (lookup : String → Option String) (text : String) :
    Except Fault (Int × List (String × Int)) := do
  (← Expression.parse text).evaluate lookup []

end Conformance.Shell.Arithmetic
