/-
  File:      ProxmoxMcp/Utils.lean
  Subject:   SELECTORS AND SHELL QUOTING (`utils.ts`).

  `wildcardToRegExp` is modelled as the text it builds, read back by the regular-expression
  constructor: a selector with a `?` is not a wildcard but a quantifier, or a SyntaxError.
-/
import ProxmoxMcp.Config

namespace ProxmoxMcp

variable [Regex.CaseFold]

/-! ## 1. Selectors -/

/-- The character class `[.+^${}()|[\]\\]` of `wildcardToRegExp`. -/
def regExpSpecial : List Char := ['.', '+', '^', '$', '{', '}', '(', ')', '|', '[', ']', '\\']

/-- `pattern.replace(/[.+^${}()|[\]\\]/g, "\\$&").replace(/\*/g, ".*")`. -/
def escapeWildcard (pattern : List Char) : List Char :=
  Text.replaceChar '*' ['.', '*'] (pattern.flatMap fun c => if c ∈ regExpSpecial then ['\\', c] else [c])

/-- `wildcardToRegExp`. -/
def wildcardToRegExp (pattern : String) : Except String (List Regex.Item) :=
  let source := escapeWildcard pattern.toList
  match Regex.compile source with
  | some r => .ok r
  | none => .error s!"Invalid regular expression: /^{String.ofList source}$/"

/-- `patterns.some((pattern) => wildcardToRegExp(pattern).test(actual))`: later selectors are not
    even compiled once one matches. -/
def someMatches (actual : String) : List String → Except String Bool
  | [] => .ok false
  | p :: ps =>
      match wildcardToRegExp p with
      | .error e => .error e
      | .ok r => if Regex.matchB r actual.toList then .ok true else someMatches actual ps

/-- `matchesPattern`. -/
def matchesPattern (value : Option String) (patterns : Option (List String)) :
    Except String Bool :=
  match patterns with
  | none | some [] => .ok true
  | some (p :: ps) =>
    match value with
    | none => .ok ((p :: ps).contains "*")
    | some actual => someMatches actual (p :: ps)

/-! ## 2. Shell quoting -/

omit [Regex.CaseFold] in
/-- `shellQuote`: `'` in front and behind, and `'"'"'` for every quote inside. -/
def shellQuote (value : String) : String :=
  "'" ++ String.ofList (Text.replaceChar '\'' ['\'', '"', '\'', '"', '\''] value.toList) ++ "'"

/-- `shellJoin`. -/
def shellJoin (parts : List String) : String :=
  String.ofList (Text.joinWith [' '] (parts.map fun part => (shellQuote part).toList))

end ProxmoxMcp
