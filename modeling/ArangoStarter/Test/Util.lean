import Mathlib.Data.List.Basic
import ArangoStarter.Go.Strconv

/-!
# The test helpers: waiting until a starter is gone, and test modes

`WaitUntilStarterGone` (src/test/util.go) asks the starter for its version
every 200 ms and counts the queries that fail in a row.  It gives up on the
starter once the count passes two.

`versionOk i` is whether the `i`-th `c.Version` query returned without an
error.  It stands for any sequence of outcomes, finite or infinite: the loop
reads only the queries it makes.  The sleep is left out.

* `trailingFailures versionOk n` is the length of the run of failures that
  ends the first `n` queries.  `waitUntilStarterGoneLoop_succ`: a turn
  entered with that length as its count checks the length after its query
  and hands it to the next turn.
* `waitUntilStarterGoneLoop_eq_some`: the loop breaks right after the first
  query that ends a run of more than two failures, and nowhere else.
* `waitUntilStarterGone_spec`: `WaitUntilStarterGone` returns right after the
  first query that completes three failures in a row, and never returns
  when no three queries in a row fail.

`init` reads the test modes from `TEST_MODES`, and `needTestMode` skips a
test whose mode is not among them.  `needTestMode_testModesOf`: a test runs
exactly when the variable is empty or names its mode as one of its fields.
`needTestMode_spaces`: a variable of spaces alone is not empty, and it skips
every test that has a mode.
-/

namespace ArangoStarter.Test

open Go

/-! ## The loop of WaitUntilStarterGone -/

/-- `failures` after one `Version` query: an answer resets it, an error counts
one more. -/
def countFailures (versionOk : Bool) (failures : Nat) : Nat :=
  if versionOk then 0 else failures + 1

/-- The `for` loop of `WaitUntilStarterGone`, entered before the `i`-th query
with the count `failures`, for at most `fuel` turns.  It returns the number
of queries made when the loop breaks, and `none` when the fuel runs out
first. -/
def waitUntilStarterGoneLoop (versionOk : Nat → Bool) : Nat → Nat → Nat → Option Nat
  | 0, _, _ => none
  | fuel + 1, i, failures =>
    let failures := countFailures (versionOk i) failures
    if failures > 2 then some (i + 1) else waitUntilStarterGoneLoop versionOk fuel (i + 1) failures

/-- `WaitUntilStarterGone(t, endpoint)`: the loop from `failures := 0`. -/
def waitUntilStarterGone (versionOk : Nat → Bool) (fuel : Nat) : Option Nat :=
  waitUntilStarterGoneLoop versionOk fuel 0 0

/-! ## Runs of failures -/

/-- The length of the run of failed queries that ends the first `n`
queries. -/
def trailingFailures (versionOk : Nat → Bool) (n : Nat) : Nat :=
  ((List.range n).reverse.takeWhile fun i => !versionOk i).length

theorem trailingFailures_zero (versionOk : Nat → Bool) : trailingFailures versionOk 0 = 0 := rfl

/-- One more query: an answer ends the run, an error makes it one longer. -/
theorem countFailures_trailingFailures (versionOk : Nat → Bool) (n : Nat) :
    countFailures (versionOk n) (trailingFailures versionOk n) = trailingFailures versionOk (n + 1) := by
  cases h : versionOk n <;>
    simp [countFailures, trailingFailures, List.range_succ, List.takeWhile_cons, h]

/-- The `n`-th query completes three failed queries in a row. -/
def RunOfThree (versionOk : Nat → Bool) (n : Nat) : Prop :=
  3 ≤ n ∧ versionOk (n - 3) = false ∧ versionOk (n - 2) = false ∧ versionOk (n - 1) = false

instance (versionOk : Nat → Bool) (n : Nat) : Decidable (RunOfThree versionOk n) :=
  inferInstanceAs (Decidable (_ ∧ _))

theorem two_lt_trailingFailures_iff (versionOk : Nat → Bool) (n : Nat) :
    2 < trailingFailures versionOk n ↔ RunOfThree versionOk n := by
  rcases n with _ | _ | _ | k <;>
    simp only [RunOfThree, ← countFailures_trailingFailures, trailingFailures_zero, countFailures] <;>
    (try split_ifs) <;> simp_all

/-! ## The loop against the runs -/

/-- One turn of the loop, entered with the length of the trailing run: the
check reads the length after the turn's query, and the next turn is entered
with it. -/
theorem waitUntilStarterGoneLoop_succ (versionOk : Nat → Bool) (fuel i : Nat) :
    waitUntilStarterGoneLoop versionOk (fuel + 1) i (trailingFailures versionOk i) =
      if 2 < trailingFailures versionOk (i + 1) then some (i + 1)
      else waitUntilStarterGoneLoop versionOk fuel (i + 1) (trailingFailures versionOk (i + 1)) := by
  rw [waitUntilStarterGoneLoop, countFailures_trailingFailures]

/-- The loop entered before the `i`-th query breaks after the `n`-th query
exactly when that is the first query from the `i`-th on that ends a run of
more than two failures, within the fuel. -/
theorem waitUntilStarterGoneLoop_eq_some (versionOk : Nat → Bool) :
    ∀ fuel i n, waitUntilStarterGoneLoop versionOk fuel i (trailingFailures versionOk i) = some n ↔
      i < n ∧ n ≤ i + fuel ∧ 2 < trailingFailures versionOk n ∧
        ∀ m, i < m → m < n → trailingFailures versionOk m ≤ 2
  | 0, i, n => by
    simp only [waitUntilStarterGoneLoop, reduceCtorEq, false_iff]
    omega
  | fuel + 1, i, n => by
    rw [waitUntilStarterGoneLoop_succ]
    split
    case isTrue h =>
      rw [Option.some_inj]
      constructor
      · rintro rfl
        exact ⟨by omega, by omega, h, fun m _ _ => by omega⟩
      · rintro ⟨hi, -, -, hfirst⟩
        by_contra hn
        exact absurd (hfirst (i + 1) (by omega) (by omega)) (by omega)
    case isFalse h =>
      rw [waitUntilStarterGoneLoop_eq_some versionOk fuel (i + 1) n]
      constructor
      · rintro ⟨hi, hfuel, hn, hfirst⟩
        refine ⟨by omega, by omega, hn, fun m hm hmn => ?_⟩
        rcases Nat.lt_or_ge (i + 1) m with hm' | hm'
        · exact hfirst m hm' hmn
        · rw [show m = i + 1 by omega]
          omega
      · rintro ⟨hi, hfuel, hn, hfirst⟩
        have hne : n ≠ i + 1 := fun he => h (he ▸ hn)
        exact ⟨by omega, by omega, hn, fun m hm hmn => hfirst m (by omega) hmn⟩

/-! ## `WaitUntilStarterGone` -/

/-- `WaitUntilStarterGone` returns after the `n`-th query exactly when that
query is the first to complete three failed queries in a row, and with
enough fuel it does return there.  Its count starts as the length of the
trailing run of failures, and each turn checks the length after its query
and carries it on.  When no three queries in a row fail it never returns. -/
theorem waitUntilStarterGone_spec (versionOk : Nat → Bool) :
    (∀ fuel n, waitUntilStarterGone versionOk fuel = some n ↔
      n ≤ fuel ∧ RunOfThree versionOk n ∧ ∀ m < n, ¬ RunOfThree versionOk m) ∧
    (∀ fuel, waitUntilStarterGone versionOk fuel =
      waitUntilStarterGoneLoop versionOk fuel 0 (trailingFailures versionOk 0)) ∧
    (∀ fuel i, waitUntilStarterGoneLoop versionOk (fuel + 1) i (trailingFailures versionOk i) =
      if 2 < trailingFailures versionOk (i + 1) then some (i + 1)
      else waitUntilStarterGoneLoop versionOk fuel (i + 1) (trailingFailures versionOk (i + 1))) ∧
    ((∀ n, ¬ RunOfThree versionOk n) → ∀ fuel, waitUntilStarterGone versionOk fuel = none) := by
  have hrun := two_lt_trailingFailures_iff versionOk
  have hspec : ∀ fuel n, waitUntilStarterGone versionOk fuel = some n ↔
      n ≤ fuel ∧ RunOfThree versionOk n ∧ ∀ m < n, ¬ RunOfThree versionOk m := fun fuel n => by
    refine (waitUntilStarterGoneLoop_eq_some versionOk fuel 0 n).trans ?_
    rw [hrun]
    constructor
    · rintro ⟨-, hfuel, hn, hfirst⟩
      refine ⟨by omega, hn, fun m hm hm3 => ?_⟩
      rcases Nat.eq_zero_or_pos m with rfl | hpos
      · exact absurd hm3.1 (by decide)
      · exact absurd ((hrun m).2 hm3) (Nat.not_lt.2 (hfirst m hpos hm))
    · rintro ⟨hfuel, hn, hfirst⟩
      exact ⟨by have := hn.1; omega, by omega, hn,
        fun m _ hm => Nat.not_lt.1 fun h => hfirst m hm ((hrun m).1 h)⟩
  refine ⟨hspec, fun _ => rfl, waitUntilStarterGoneLoop_succ versionOk, fun hnone fuel => ?_⟩
  cases h : waitUntilStarterGone versionOk fuel with
  | none => rfl
  | some n => exact absurd ((hspec fuel n).1 h).2.1 (hnone n)

/-- Two failures and an answer, over and over, never make it return; an
answer, then errors from the second query on, make it return after the
fourth query. -/
theorem waitUntilStarterGone_spec_examples :
    (∀ fuel, waitUntilStarterGone (fun i => i % 3 == 2) fuel = none) ∧
      waitUntilStarterGone (fun i => decide (i < 1)) 10 = some 4 := by
  refine ⟨(waitUntilStarterGone_spec _).2.2.2 fun n ⟨h3, h1, h2, h0⟩ => ?_,
    ((waitUntilStarterGone_spec _).1 10 4).2 ⟨by decide, by decide, by decide⟩⟩
  simp only [beq_eq_false_iff_ne] at h1 h2 h0
  omega

/-! ## Test modes -/

/-- `testModes` as `init` sets it from `TEST_MODES`: `strings.Split` at every
space, and `nil` when that gives the single empty field of an empty or unset
variable. -/
def testModesOf (testModesEnv : GoString) : List GoString :=
  let modes := testModesEnv.splitOn 32
  if modes = [[]] then [] else modes

/-- `needTestMode(t, testMode)`: `true` when the test goes on, `false` when it
calls `t.Skipf`. -/
def needTestMode (testModes : List GoString) (testMode : GoString) : Bool :=
  testModes.any (· == testMode) || testModes.length == 0

/-- A test runs exactly when `TEST_MODES` is empty or one of its fields between
spaces is the test's mode.  A variable of spaces alone is not empty: its
fields are empty, and it skips every test that has a mode. -/
theorem needTestMode_testModesOf (testModesEnv testMode : GoString) :
    needTestMode (testModesOf testModesEnv) testMode = true ↔
      testModesEnv = [] ∨ testMode ∈ testModesEnv.splitOn 32 := by
  by_cases he : testModesEnv = []
  · subst he
    simp [testModesOf, needTestMode, List.splitOn_nil]
  have hjoin := List.intercalate_splitOn testModesEnv (32 : UInt8)
  have hsplit : testModesEnv.splitOn 32 ≠ [[]] := fun h => he (by rw [← hjoin, h]; rfl)
  have hne : testModesEnv.splitOn 32 ≠ [] := fun h => he (by rw [← hjoin, h]; rfl)
  simp [testModesOf, needTestMode, hsplit, hne, he]

/-- `strings.Split` of `n` spaces gives `n + 1` empty fields. -/
theorem splitOn_replicate_space (n : Nat) :
    (List.replicate n (32 : UInt8)).splitOn 32 = List.replicate (n + 1) [] := by
  induction n with
  | zero => rfl
  | succ n ih =>
    rw [List.replicate_succ, List.splitOn, List.splitOnP_cons, if_pos (beq_self_eq_true _),
      ← List.splitOn, ih]
    rfl

/-- A `TEST_MODES` of spaces alone is not taken for an unset one: its fields
are all empty, so only a test whose mode is empty runs. -/
theorem needTestMode_spaces (n : Nat) (testMode : GoString) :
    needTestMode (testModesOf (List.replicate (n + 1) 32)) testMode = true ↔ testMode = [] := by
  rw [needTestMode_testModesOf, splitOn_replicate_space, List.mem_replicate]
  simp

end ArangoStarter.Test
