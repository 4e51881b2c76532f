import GuardedDivision.Proofs.ChaCha.Keystream
import GuardedDivision.Proofs.Consumption
import GuardedDivision.Proofs.FloatDivision
import GuardedDivision.Run

namespace GuardedDivision

inductive Reading where
  | int (source : Source)
  | float (source : Source)

namespace Reading

def source : Reading → Source
  | .int source | .float source => source

/-- What a reading from a random word gives: the word as a signed integer, or the floating-point
number of exactly that value. -/
inductive Gives (word : BitVec 32) : Reading → Denominator → Prop
  | int {source : Source} {v : Int32} : v.toInt = word.toInt → Gives word (.int source) (.int v)
  | float {source : Source} {v : Int32} : v.toInt = word.toInt →
    (Binary64.ofInt32 v).IsWhole word.toInt → Gives word (.float source) (.float (.ofInt32 v))

def randomCount (readings : List Reading) : Nat := readings.countP fun r => r.source = .random

variable {γ : Type} [WordSource γ]

def run (r : Reading) (input : Input γ) : Except ReadFailure Denominator × Input γ :=
  match r with
  | .int source =>
    let (value, rest) := source.readInt input
    (value.map .int, rest)
  | .float source =>
    let (value, rest) := source.readFloat input
    (value.map .float, rest)

def after (readings : List Reading) (input : Input γ) : Input γ :=
  readings.foldl (fun here r => (r.run here).2) input

theorem words_read {α : Type} (ofInt32 : Int32 → α) (ofText? : List Char → Option α)
    (source : Source) (input : Input γ) :
    (source.read ofInt32 ofText? input).2.words =
      WordSource.skip input.words (if source = .random then 1 else 0) := by
  cases source <;> rfl

theorem words_run (r : Reading) (input : Input γ) :
    (r.run input).2.words = WordSource.skip input.words (if r.source = .random then 1 else 0) := by
  cases r with
  | int source => exact words_read _ _ source input
  | float source => exact words_read _ _ source input

theorem words_after (readings : List Reading) (input : Input γ) :
    (after readings input).words = WordSource.skip input.words (randomCount readings) := by
  induction readings generalizing input with
  | nil => rfl
  | cons r readings ih =>
    have hcount : randomCount (r :: readings) =
        (if r.source = .random then 1 else 0) + randomCount readings := by
      simp only [randomCount, List.countP_cons, decide_eq_true_eq, Nat.add_comm]
    rw [hcount, WordSource.skip_add, ← words_run]
    exact ih _

theorem gives_run {r : Reading} (hr : r.source = .random) (input : Input γ) :
    ∃ d, (r.run input).1 = .ok d ∧ r.Gives (WordSource.next input.words).1.toBitVec d := by
  cases r with
  | int source =>
    obtain rfl : source = .random := hr
    exact ⟨_, rfl, .int rfl⟩
  | float source =>
    obtain rfl : source = .random := hr
    exact ⟨_, rfl, .float rfl (Binary64.isWhole_ofInt32 _)⟩

end Reading

def Case.reading (c : Case) : Reading :=
  match c.operation with
  | .divide | .modulo => .int c.source
  | .float => .float c.source

theorem Case.source_reading (c : Case) : c.reading.source = c.source := by
  unfold reading
  cases c.operation <;> rfl

theorem Case.readDenominator_eq {γ : Type} [WordSource γ] (c : Case) (input : Input γ) :
    c.readDenominator input = c.reading.run input := by
  unfold readDenominator reading
  cases c.operation <;> rfl

theorem Session.results_random {γ : Type} [WordSource γ] (catchFaults : Bool) {cases : List Case}
    (input : Input γ) {i : Nat} {c : Case} (hc : cases[i]? = some c)
    (hsource : c.source = .random) :
    ∃ d, c.reading.Gives
        (WordSource.word input.words (Case.wordCount (cases.take i))).toBitVec d ∧
      (run catchFaults cases input).results[i]? = some (c.result catchFaults d) := by
  obtain ⟨d, hread, hgives⟩ := Reading.gives_run (c.source_reading.trans hsource)
    (input.own (Case.lineCount (cases.take i)) (Case.wordCount (cases.take i)))
  refine ⟨d, hgives, ?_⟩
  rw [results_run, List.getElem?_mapIdx, hc, Option.map_some, Case.run_result,
    Case.readDenominator_eq, hread]

namespace Settings

variable {s : Settings} {seed : UInt64}

theorem toBitVec_word (hseed : s.seed = some seed) (fresh : UInt64) (console : Bytes) (k : Nat) :
    (WordSource.word (s.input fresh console).words k).toBitVec =
      ChaCha.keystream seed.toNat k := by
  rw [input, hseed]
  exact ChaCha.toBitVec_word seed k

/-- After any readings, among them some number from random words, the next word is the word of the
keystream with this number. -/
theorem random_keystream (hseed : s.seed = some seed) (fresh : UInt64) (console : Bytes) :
    (∀ readings : List Reading,
      let here := Reading.after readings (s.input fresh console)
      let word := ChaCha.keystream seed.toNat (Reading.randomCount readings)
      (WordSource.next here.words).1.toBitVec = word ∧
        ∀ r : Reading, r.source = .random → ∃ d, (r.run here).1 = .ok d ∧ r.Gives word d) ∧
    ∀ (catchFaults : Bool) (cases : List Case),
      let session := Session.run catchFaults cases (s.input fresh console)
      (WordSource.next session.rest.words).1.toBitVec =
          ChaCha.keystream seed.toNat (Case.wordCount cases) ∧
        ∀ (i : Nat) (c : Case), cases[i]? = some c → c.source = .random →
          ∃ d, c.reading.Gives
              (ChaCha.keystream seed.toNat (Case.wordCount (cases.take i))) d ∧
            session.results[i]? = some (c.result catchFaults d) := by
  constructor
  · intro readings here word
    have hnext : (WordSource.next here.words).1.toBitVec = word := by
      rw [Reading.words_after]
      exact toBitVec_word hseed fresh console _
    exact ⟨hnext, fun r hr => hnext ▸ Reading.gives_run hr here⟩
  · intro catchFaults cases session
    constructor
    · rw [Session.rest_run]
      exact toBitVec_word hseed fresh console _
    · intro i c hc hsource
      rw [← toBitVec_word hseed fresh console]
      exact Session.results_random catchFaults _ hc hsource

def seventeenWords : List Case :=
  List.replicate 16 ⟨1, .random, .modulo, .guarded⟩ ++
    [⟨1, .console, .float, .guarded⟩, ⟨1, .random, .divide, .guarded⟩]

theorem random_keystream_seventeen : (ChaCha.keystream 7 16).toInt = 2018744231 := by
  have hseed : ({ seed := some 7 } : Settings).seed = some 7 := rfl
  have hcount : Case.wordCount (seventeenWords.take 17) = 16 := by decide +kernel
  have hresult : (Session.run true seventeenWords
      (input { seed := some 7 } 0 (Utf8.encode "none".toList))).results[17]? =
        some (.reported ⟨⟨1, .random, .divide, .guarded⟩, .int 2018744231, .value 0⟩) := by
    decide +kernel
  obtain ⟨d, hgives, hd⟩ := ((random_keystream hseed 0 (Utf8.encode "none".toList)).2 true
    seventeenWords).2 17 ⟨1, .random, .divide, .guarded⟩ rfl rfl
  rw [hcount] at hgives
  rw [hresult, Case.result_caught] at hd
  obtain rfl : .int 2018744231 = d :=
    congrArg Report.denominator (Result.reported.inj (Option.some.inj hd))
  cases hgives with
  | int hv => exact hv.symm

end Settings

end GuardedDivision
