import BasicComputer.Expression.Token
import BasicComputer.Expression.Tree

/-!
Contract: from tokens to statements.

Operators are read by precedence. Comparisons do not associate: two of them in a
row need parentheses. A program is one line of statements between semicolons.

Every function takes a bound on the depth of its recursion. Between two tokens
at most five functions call each other, so `depthFor` is always enough.
-/

namespace BasicComputer.Expression

/-- A reader of tokens. It fails or gives a result and the tokens that
follow. -/
abbrev Parser := StateT (List Token) Option

namespace Parser

/-- Whether the next token is a mark; if so it is dropped. -/
def accept (mark : Punctuation) : Parser Bool := do
  match (← get) with
  | .punctuation found :: rest =>
      if found = mark then
        set rest
        return true
      else return false
  | _ => return false

def expect (mark : Punctuation) : Parser Unit := do
  if !(← accept mark) then failure

/-- Whether the next token is a keyword; if so it is dropped. -/
def acceptWord (word : Keyword) : Parser Bool := do
  match (← get) with
  | .keyword found :: rest =>
      if found = word then
        set rest
        return true
      else return false
  | _ => return false

def expectWord (word : Keyword) : Parser Unit := do
  if !(← acceptWord word) then failure

def sees (mark : Punctuation) : Parser Bool := do
  match (← get) with
  | .punctuation found :: _ => return decide (found = mark)
  | _ => return false

def name : Parser Bytes := do
  match (← get) with
  | .name text :: rest =>
      set rest
      return text
  | _ => failure

def name? : Parser (Option Bytes) := do
  match (← get) with
  | .name text :: rest =>
      set rest
      return some text
  | _ => return none

end Parser

/-- Where an operator between operands comes from. -/
inductive Infixed where
  | strict (operator : BinaryOperator)
  | both
  | either
deriving DecidableEq, Repr

/-- The operator between operands that starts a list of tokens, with its
precedence and the tokens after it. `not` stands between operands only before
`in`, so anything else after it is a failure. -/
def infixed? : List Token → Option (Option (Infixed × Nat × List Token))
  | .keyword .wordOr :: rest => some (some (.either, 0, rest))
  | .keyword .wordAnd :: rest => some (some (.both, 1, rest))
  | .keyword .wordNot :: .keyword .wordIn :: rest =>
      some (some (.strict .notMember, 3, rest))
  | .keyword .wordNot :: _ => none
  | .keyword .wordIn :: rest => some (some (.strict .member, 3, rest))
  | .punctuation mark :: rest =>
      match mark with
      | .equal => some (some (.strict .equal, 3, rest))
      | .notEqual => some (some (.strict .notEqual, 3, rest))
      | .less => some (some (.strict .less, 3, rest))
      | .greater => some (some (.strict .greater, 3, rest))
      | .lessEqual => some (some (.strict .lessEqual, 3, rest))
      | .greaterEqual => some (some (.strict .greaterEqual, 3, rest))
      | .pipe => some (some (.strict .bitOr, 4, rest))
      | .circumflex => some (some (.strict .bitXor, 5, rest))
      | .ampersand => some (some (.strict .bitAnd, 6, rest))
      | .shiftLeft => some (some (.strict .shiftLeft, 7, rest))
      | .shiftRight => some (some (.strict .shiftRight, 7, rest))
      | .plus => some (some (.strict .add, 8, rest))
      | .minus => some (some (.strict .subtract, 8, rest))
      | .star => some (some (.strict .multiply, 9, rest))
      | .slash => some (some (.strict .divide, 9, rest))
      | .slashSlash => some (some (.strict .floorDivide, 9, rest))
      | .percent => some (some (.strict .remainder, 9, rest))
      | _ => some none
  | _ => some none

def comparisonPrecedence : Nat := 3

def negationPrecedence : Nat := 2

def Infixed.tree (left right : Tree) : Infixed → Tree
  | .strict .add => left.plus right
  | .strict operator => .binary operator left right
  | .both => .both left right
  | .either => .either left right

/-- Whether a list of expressions ends before these tokens. -/
def endsList : List Token → Bool
  | [] => true
  | .punctuation mark :: _ =>
      mark == .assign || mark == .closeBrace || mark == .closeBracket || mark == .closeParen ||
        mark == .semicolon
  | _ => false

open BasicComputer.Expression.Parser

mutual

/-- A single expression: a function, or operators with an optional choice. -/
def parseTest : Nat → Parser Tree
  | 0 => failure
  | depth + 1 => do
      if ← acceptWord .wordLambda then parseLambda depth true
      else
        let yes ← parseOperators depth 0
        if ← acceptWord .wordIf then
          let condition ← parseOperators depth 0
          expectWord .wordElse
          let no ← parseTest depth
          return .choice condition yes no
        else return yes

/-- A single expression that is not followed by a choice. -/
def parseTestWithoutChoice : Nat → Parser Tree
  | 0 => failure
  | depth + 1 => do
      if ← acceptWord .wordLambda then parseLambda depth false
      else parseOperators depth 0

def parseLambda : Nat → Bool → Parser Tree
  | 0, _ => failure
  | depth + 1, allowsChoice => do
      let parameters ← if ← sees .colon then pure [] else parseParameters depth []
      expect .colon
      let body ← if allowsChoice then parseTest depth else parseTestWithoutChoice depth
      return .lambda parameters body

/-- Parameters up to the colon. `done` holds those already read, last one
first. -/
def parseParameters : Nat → List (Parameter Tree) → Parser (List (Parameter Tree))
  | 0, _ => failure
  | depth + 1, done => do
      if (← sees .colon) || (← sees .closeParen) || (← get).isEmpty then return done.reverse
      else
        if !done.isEmpty then expect .comma
        if ← sees .closeParen then return done.reverse
        else if ← accept .star then
          let name ← name?
          parseParameters depth (.rest name :: done)
        else if ← accept .starStar then
          let name ← name
          parseParameters depth (.restNamed name :: done)
        else
          let name ← name
          if ← accept .assign then
            let default ← parseTest depth
            parseParameters depth (.optional name default :: done)
          else parseParameters depth (.required name :: done)

/-- Operands joined by operators of at least a precedence. -/
def parseOperators : Nat → Nat → Parser Tree
  | 0, _ => failure
  | depth + 1, least => do
      if least ≤ negationPrecedence then
        if ← acceptWord .wordNot then
          let operand ← parseOperators depth negationPrecedence
          parseOperatorTail depth least false (.unary .negate operand)
        else
          let operand ← parseOperand depth
          parseOperatorTail depth least false operand
      else
        let operand ← parseOperand depth
        parseOperatorTail depth least false operand

/-- The operators after a left operand. `compared` tells that the operand is a
comparison that was read here. -/
def parseOperatorTail : Nat → Nat → Bool → Tree → Parser Tree
  | 0, _, _, _ => failure
  | depth + 1, least, compared, left => do
      match infixed? (← get) with
      | none => failure
      | some none => return left
      | some (some (operator, precedence, rest)) =>
          if precedence < least then return left
          -- comparisons do not chain
          else if compared && precedence == comparisonPrecedence then failure
          else
            set rest
            let right ← parseOperators depth (precedence + 1)
            parseOperatorTail depth least (precedence == comparisonPrecedence)
              (operator.tree left right)

/-- An operand: a primary expression with its suffixes. -/
def parseOperand : Nat → Parser Tree
  | 0 => failure
  | depth + 1 => do
      let primary ← parsePrimary depth
      parseSuffixes depth primary

/-- Attributes, indices, slices and calls after an expression. -/
def parseSuffixes : Nat → Tree → Parser Tree
  | 0, _ => failure
  | depth + 1, object => do
      if ← accept .dot then
        let name ← name
        parseSuffixes depth (.attribute object name)
      else if ← accept .openBracket then
        let indexed ← parseIndex depth object
        parseSuffixes depth indexed
      else if ← accept .openParen then
        let arguments ← parseArguments depth []
        expect .closeParen
        parseSuffixes depth (.call object arguments)
      else return object

def parseIndex : Nat → Tree → Parser Tree
  | 0, _ => failure
  | depth + 1, object => do
      let low ← if ← sees .colon then pure none else do pure (some (← parseExpression depth false))
      match low, ← accept .closeBracket with
      | some position, true => return .index object position
      | none, true => failure
      | low, false =>
          let high ←
            if ← accept .colon then
              if (← sees .colon) || (← sees .closeBracket) then pure none
              else do pure (some (← parseTest depth))
            else pure none
          let step ←
            if ← accept .colon then
              if ← sees .closeBracket then pure none else do pure (some (← parseTest depth))
            else pure none
          expect .closeBracket
          return .slice object low high step

/-- Arguments up to the closing parenthesis. `done` holds those already read,
last one first. -/
def parseArguments : Nat → List (Argument Tree) → Parser (List (Argument Tree))
  | 0, _ => failure
  | depth + 1, done => do
      if (← sees .closeParen) || (← get).isEmpty then return done.reverse
      else
        if !done.isEmpty then expect .comma
        if ← sees .closeParen then return done.reverse
        else if ← accept .star then
          let value ← parseTest depth
          parseArguments depth (.spread value :: done)
        else if ← accept .starStar then
          let value ← parseTest depth
          parseArguments depth (.spreadNamed value :: done)
        else
          let value ← parseTest depth
          if ← accept .assign then
            match value with
            | .name name =>
                let value ← parseTest depth
                parseArguments depth (.named name value :: done)
            | _ => failure
          else parseArguments depth (.positional value :: done)

def parsePrimary : Nat → Parser Tree
  | 0 => failure
  | depth + 1 => do
      match ← get with
      | [] => failure
      | token :: rest =>
          set rest
          match token with
          | .name name => return .name name
          | .integer value => return .integer value
          | .float value => return .float value
          | .text value => return .text value
          | .bytes value => return .bytes value
          | .keyword _ => failure
          | .punctuation .openParen =>
              if ← accept .closeParen then return .tuple []
              else
                let inner ← parseExpression depth true
                expect .closeParen
                return .paren inner
          | .punctuation .openBracket =>
              if ← accept .closeBracket then return .list []
              else
                let first ← parseTest depth
                if ← acceptWord .wordFor then
                  let clauses ← parseClauses depth .closeBracket true []
                  return .listOf first clauses
                else
                  let items ← parseItems depth true [first]
                  expect .closeBracket
                  return .list items
          | .punctuation .openBrace =>
              if ← accept .closeBrace then return .dict []
              else
                let key ← parseTest depth
                expect .colon
                let value ← parseTest depth
                if ← acceptWord .wordFor then
                  let clauses ← parseClauses depth .closeBrace true []
                  return .dictOf key value clauses
                else
                  let entries ← parseEntries depth [(key, value)]
                  return .dict entries
          | .punctuation .minus => return .unary .minus (← parseOperand depth)
          | .punctuation .plus => return .unary .plus (← parseOperand depth)
          | .punctuation .tilde => return .unary .invert (← parseOperand depth)
          | .punctuation _ => failure

/-- The entries of a dictionary after the first ones, and its closing brace.
`done` holds those already read, last one first. -/
def parseEntries : Nat → List (Tree × Tree) → Parser (List (Tree × Tree))
  | 0, _ => failure
  | depth + 1, done => do
      if ← accept .comma then
        if ← accept .closeBrace then return done.reverse
        else
          let key ← parseTest depth
          expect .colon
          let value ← parseTest depth
          parseEntries depth ((key, value) :: done)
      else
        expect .closeBrace
        return done.reverse

/-- The clauses of a comprehension up to its closing bracket. `begun` tells that
the keyword of an `each` clause has been read, and `done` holds the clauses
already read, last one first. -/
def parseClauses : Nat → Punctuation → Bool → List (Clause Tree Tree) →
    Parser (List (Clause Tree Tree))
  | 0, _, _, _ => failure
  | depth + 1, closing, begun, done => do
      if begun then
        let target ← parseTargets depth
        expectWord .wordIn
        let source ← parseOperators depth 0
        parseClauses depth closing false (.each target source :: done)
      else if ← accept closing then return done.reverse
      else if ← acceptWord .wordFor then parseClauses depth closing true done
      else if ← acceptWord .wordIf then
        let condition ← parseTestWithoutChoice depth
        parseClauses depth closing false (.onlyIf condition :: done)
      else failure

def parseTargets : Nat → Parser Tree
  | 0 => failure
  | depth + 1 => do
      let first ← parseOperand depth
      if ← sees .comma then return .tuple (← parseMoreTargets depth [first])
      else return first

/-- The variables of an `each` clause after the first. `done` holds those
already read, last one first. -/
def parseMoreTargets : Nat → List Tree → Parser (List Tree)
  | 0, _ => failure
  | depth + 1, done => do
      if ← accept .comma then
        if endsList (← get) then return done.reverse
        else
          let next ← parseOperand depth
          parseMoreTargets depth (next :: done)
      else return done.reverse

/-- Further expressions between commas. `done` holds those already read, last
one first. -/
def parseItems : Nat → Bool → List Tree → Parser (List Tree)
  | 0, _, _ => failure
  | depth + 1, allowsTrailing, done => do
      if ← accept .comma then
        if endsList (← get) then
          if allowsTrailing then return done.reverse else failure
        else
          let next ← parseTest depth
          parseItems depth allowsTrailing (next :: done)
      else return done.reverse

/-- One expression, or several between commas as a tuple. -/
def parseExpression : Nat → Bool → Parser Tree
  | 0, _ => failure
  | depth + 1, allowsTrailing => do
      let first ← parseTest depth
      if ← sees .comma then return .tuple (← parseItems depth allowsTrailing [first])
      else return first

end

def updateOperator? : Punctuation → Option BinaryOperator
  | .plusAssign => some .add
  | .minusAssign => some .subtract
  | .starAssign => some .multiply
  | .slashAssign => some .divide
  | .slashSlashAssign => some .floorDivide
  | .percentAssign => some .remainder
  | .ampersandAssign => some .bitAnd
  | .pipeAssign => some .bitOr
  | .circumflexAssign => some .bitXor
  | .shiftLeftAssign => some .shiftLeft
  | .shiftRightAssign => some .shiftRight
  | _ => none

def parseTextLiteral : Parser Bytes := do
  match ← get with
  | .text value :: rest =>
      set rest
      return value
  | _ => failure

/-- What a load statement loads under which name: both are the same if only a text
is given. -/
def parseLoadEntry : Parser (Bytes × Bytes) := do
  match ← get with
  | .name name :: .punctuation .assign :: rest =>
      set rest
      return (name, ← parseTextLiteral)
  | _ =>
      let name ← parseTextLiteral
      return (name, name)

/-- The entries of a load statement up to its closing parenthesis. `count` bounds
their number, and `done` holds those already read, last one first. -/
def parseLoadEntries : Nat → List (Bytes × Bytes) → Parser (List (Bytes × Bytes))
  | 0, _ => failure
  | count + 1, done => do
      if ← accept .closeParen then return done.reverse
      else if ← accept .comma then
        if ← accept .closeParen then return done.reverse
        else
          let entry ← parseLoadEntry
          parseLoadEntries count (entry :: done)
      else failure

/-- A load statement after its keyword: what it loads from, and at least one
entry. -/
def parseLoad : Parser Statement := do
  if !(← accept .openParen) then failure
  let _ ← parseTextLiteral
  let entries ← parseLoadEntries ((← get).length + 1) []
  if entries.isEmpty then failure
  return .load entries

def parseStatement (depth : Nat) : Parser Statement := do
  if ← acceptWord .wordPass then return .pass
  else if ← acceptWord .wordLoad then parseLoad
  else
    let first ← parseExpression depth false
    match ← get with
    | .punctuation .assign :: rest =>
        set rest
        return .assign first (← parseExpression depth false)
    | .punctuation mark :: rest =>
        match updateOperator? mark with
        | some operator =>
            set rest
            return .update operator first (← parseExpression depth false)
        | none => return .evaluate first
    | _ => return .evaluate first

/-- The statements of a program. `count` bounds their number, and `done` holds
those already read, last one first. -/
def parseStatements (depth : Nat) : Nat → List Statement → Parser (List Statement)
  | 0, _ => failure
  | count + 1, done => do
      let statement ← parseStatement depth
      if ← accept .semicolon then
        if (← get).isEmpty then return (statement :: done).reverse
        else parseStatements depth count (statement :: done)
      else if (← get).isEmpty then return (statement :: done).reverse
      else failure

/-- A depth of recursion that is enough for a number of tokens. -/
def depthFor (count : Nat) : Nat :=
  8 * count + 16

def statements? (tokens : List Token) : Option (List Statement) :=
  if tokens.isEmpty then some []
  else
    (parseStatements (depthFor tokens.length) (tokens.length + 1) [] tokens).map Prod.fst

end BasicComputer.Expression
