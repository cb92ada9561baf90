import ClusterPlan.Notice
import ClusterPlan.Text.Blank
import ClusterPlan.Text.Decimal
import ClusterPlan.Text.Split

/-!
# Which notices are shown

A `NoticeFilter` is a list of rules that say from which severity on the notices of a part of the
program are shown. It is written as rules with commas between them: a severity for the whole
program, `PATH=SEVERITY` for the parts whose path begins with `PATH`, or `PATH` alone for all of its
notices. The rule with the longest path that fits a notice decides.
-/

namespace ClusterPlan

/-- A rule for the parts of the program whose path begins in some way. -/
structure NoticeRule where
  /-- The beginning of the path; without one, the rule is for the whole program. -/
  path? : Option String
  /-- The greatest rank of severity that is shown. -/
  rank : Nat
  /-- Whether the rule is for notices within a named activity only, of which there are none. -/
  withinActivity : Bool := false
deriving Repr, DecidableEq

/-- Rules for the notices that are shown. -/
structure NoticeFilter where
  rules : List NoticeRule
deriving Repr, DecidableEq

namespace NoticeRule

/-- Whether a text is a word, in small or capital letters. -/
def isWord (word : String) (cs : List Char) : Bool :=
  cs.map Char.toLower = word.toList

/-- The rank of severity that a word or a number from zero to five tells. -/
def rank? (cs : List Char) : Option Nat :=
  match (Decimal.natural? Decimal.wordLimit cs).filter (· ≤ 5) with
  | some n => some n
  | none =>
    if isWord "error" cs then some 1
    else if isWord "warn" cs then some 2
    else if isWord "info" cs then some 3
    else if isWord "debug" cs then some 4
    else if isWord "trace" cs then some 5
    else if isWord "off" cs then some 0
    else none

/-- The rank after an equals sign; everything is shown if it is left out. -/
def rankOrAll? (cs : List Char) : Option Nat :=
  if cs = [] then some 5 else rank? cs

/-- The characters that a rule may begin with. -/
def isStart (c : Char) : Bool :=
  c = '-' || c = ':' || c = '_' || c.isAlphanum || (0x7F < c.toNat && !Text.isBlank c)

/-- Whether brackets and a rank after them make up the end of a rule; the brackets hold the name of
an activity, perhaps with fields of it. -/
def activityRank? (cs : List Char) : Option Nat :=
  let afterBracket : List Char → Option Nat
    | [] => some 5
    | '=' :: rest => rankOrAll? rest
    | _ => none
  let name := cs.takeWhile fun c => c ≠ ']' ∧ c ≠ '\x7b'
  match cs.drop name.length with
  | ']' :: rest => afterBracket rest
  | '\x7b' :: rest =>
    match Text.cut '\x7d' rest with
    | some (fields, ']' :: rest) =>
      if (Text.fields ',' fields).any List.isEmpty then none else afterBracket rest
    | _ => none
  | _ => none

/-- The rule that a text writes. Blanks around it are no part of the rule, but are not passed over:
its parts are counted from the first character of the text on. -/
def read? (text : List Char) : Option NoticeRule :=
  match Text.trim text with
  | [] => none
  | '[' :: _ => (activityRank? (text.drop 1)).map fun rank =>
      { path? := none, rank, withinActivity := true }
  | c :: rest =>
    if ¬ isStart c then none
    else
      let start := (c :: rest).takeWhile fun c => c ≠ '=' ∧ c ≠ '['
      let path? := some (String.ofList (text.take start.length))
      let after := text.drop (start.length + 1)
      match (c :: rest).drop start.length with
      | [] =>
        match rank? text with
        | some rank => some { path? := none, rank }
        | none => some { path? := some (String.ofList text), rank := 5 }
      | '=' :: _ => (rankOrAll? after).map fun rank => { path?, rank }
      | _ => (activityRank? after).map fun rank => { path?, rank, withinActivity := true }

/-- Whether a rule is for a notice. -/
def fits (r : NoticeRule) (n : Notice) : Bool :=
  !r.withinActivity && r.path?.all fun path => path.toList.isPrefixOf n.origin.path.toList

/-- How much of a path a rule tells. -/
def precision (r : NoticeRule) : Nat :=
  r.path?.elim 0 fun path => path.length + 1

end NoticeRule

namespace NoticeFilter

/-- The filter of a program that was asked to tell more several times. -/
def ofVerbosity (verbosity : Nat) : NoticeFilter :=
  ⟨[{ path? := none, rank := min (verbosity + 2) 5 }]⟩

/-- The filter that a text writes; without a rule, it shows errors. -/
def read? (text : String) : Option NoticeFilter :=
  match (Text.fields ',' text.toList).filter (· ≠ []) with
  | [] => some ⟨[{ path? := none, rank := 1 }]⟩
  | rules => (rules.mapM NoticeRule.read?).map (⟨·⟩)

/-- The rule that decides over a notice: of those with the longest path, the last one. -/
def rule? (f : NoticeFilter) (n : Notice) : Option NoticeRule :=
  f.rules.foldl (fun best r =>
    if r.fits n ∧ best.all (·.precision ≤ r.precision) then some r else best) none

/-- Whether a notice is shown. -/
def shows (f : NoticeFilter) (n : Notice) : Bool :=
  (f.rule? n).any fun r => n.severity.rank ≤ r.rank

/-- The filter of a program, by what its environment says or else by its verbosity. -/
def choose (written? : Option String) (verbosity : Nat) : NoticeFilter :=
  (written?.bind read?).getD (ofVerbosity verbosity)

end NoticeFilter
end ClusterPlan
