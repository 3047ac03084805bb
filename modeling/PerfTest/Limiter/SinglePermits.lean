import Mathlib.Data.List.Range
import PerfTest.Limiter.Rates

open PerfTestModel PerfTestModel.SmoothRateLimiter

namespace PerfTestProof

variable {permitsPerSecond : ℚ} {limiter : SmoothRateLimiter} {nowMicros : ℤ} {readings : List ℤ}

def acquires (readings : List ℤ) : List RateLimiterCall := readings.map (.acquire 1)

theorem serve_acquires (nowMicros : ℤ) (readings : List ℤ) :
    limiter.serve Java.doubles (acquires (nowMicros :: readings)) =
      limiter.ticket Java.doubles 1 nowMicros ::
        (limiter.reserved Java.doubles 1 nowMicros).serve Java.doubles (acquires readings) := by
  rw [acquires, List.map_cons, ← acquires, serve]
  rcases handle_cases Java.doubles limiter (.acquire 1 nowMicros) with refused | ⟨-, reserved⟩
  · cases congrArg Prod.fst refused
  · rw [reserved]
    rfl

def spacing (permitsPerSecond : ℚ) : ℤ := ⌊Java.double (microsInSecond / permitsPerSecond)⌋

namespace AtRate

theorem wait_of_empty (atRate : AtRate permitsPerSecond limiter) (empty : limiter.storedPermits = 0) :
    Bursty.wait Java.doubles limiter 1 = min Java.longMaxValue (spacing permitsPerSecond) := by
  have nonneg := Java.doubles.round_nonneg atRate.exact_nonneg
  rw [Bursty.wait, empty, atRate.stable_eq, Int.cast_one, min_eq_right zero_le_one, sub_zero, Java.doubles.round_one,
    one_mul, Java.doubles.round_round, longOfDouble_floor nonneg]
  rfl

theorem wait_of_frequent (atRate : AtRate permitsPerSecond limiter) (frequent : spacing permitsPerSecond = 0) :
    Bursty.wait Java.doubles limiter 1 = 0 := by
  have stored_nonneg := atRate.bursty.stored_nonneg
  have stable_pos := atRate.bursty.stable_pos
  have least : 0 ≤ min ((1 : ℤ) : ℚ) limiter.storedPermits := le_min (by norm_num) stored_nonneg
  have rest_nonneg : 0 ≤ ((1 : ℤ) : ℚ) - min ((1 : ℤ) : ℚ) limiter.storedPermits := sub_nonneg.mpr (min_le_left _ _)
  have fresh_le : Java.doubles (((1 : ℤ) : ℚ) - min ((1 : ℤ) : ℚ) limiter.storedPermits) ≤ 1 := by
    rw [← Java.doubles.round_one]
    apply Java.doubles.monotone rest_nonneg
    rw [Int.cast_one] at least ⊢
    linarith
  have fresh_nonneg := Java.doubles.round_nonneg rest_nonneg
  have charged : Java.doubles (Java.doubles (((1 : ℤ) : ℚ) - min ((1 : ℤ) : ℚ) limiter.storedPermits) *
      limiter.stableIntervalMicros) ≤ limiter.stableIntervalMicros := by
    have rounded := Java.doubles.round_round (microsInSecond / permitsPerSecond)
    rw [← atRate.stable_eq] at rounded
    calc _ ≤ Java.doubles limiter.stableIntervalMicros :=
          Java.doubles.monotone (mul_nonneg fresh_nonneg stable_pos.le) (mul_le_of_le_one_left stable_pos.le fresh_le)
      _ = limiter.stableIntervalMicros := rounded
  have stable_floor : ⌊limiter.stableIntervalMicros⌋ = spacing permitsPerSecond := by
    rw [atRate.stable_eq]
    rfl
  have floor_le := (Int.floor_le_floor charged).trans_eq stable_floor
  have range := atRate.bursty.wait_range 1
  have floor_eq : Bursty.wait Java.doubles limiter 1 ≤ spacing permitsPerSecond := by
    rw [Bursty.wait, longOfDouble_floor (atRate.bursty.charged_nonneg 1)]
    exact (min_le_right _ _).trans floor_le
  omega

end AtRate

theorem serve_saturated (atRate : AtRate permitsPerSecond limiter) (empty : limiter.storedPermits = 0)
    (onTime : ∀ (turn : ℕ) (reading : ℤ), readings[turn]? = some reading →
      reading ≤ limiter.nextFreeTicketMicros + turn * spacing permitsPerSecond)
    (early : limiter.nextFreeTicketMicros + readings.length * spacing permitsPerSecond ≤ Java.longMaxValue) :
    (limiter.serve Java.doubles (acquires readings)).map Ticket.momentAvailable =
      (List.range readings.length).map fun turn : ℕ =>
        limiter.nextFreeTicketMicros + (turn : ℤ) * spacing permitsPerSecond := by
  induction readings generalizing limiter with
  | nil => rfl
  | cons reading readings ih =>
    have spacing_nonneg : 0 ≤ spacing permitsPerSecond :=
      Int.floor_nonneg.mpr (Java.doubles.round_nonneg atRate.exact_nonneg)
    have first := onTime 0 reading rfl
    rw [Nat.cast_zero, zero_mul, add_zero] at first
    have ready : limiter.resync Java.doubles reading = limiter := if_neg (by omega)
    have isLong : reading ≤ Java.longMaxValue := first.trans atRate.bursty.next_le
    have equal := atRate.bursty.reserved_eq 1 isLong
    rw [ready] at equal
    dsimp only at equal
    rw [atRate.wait_of_empty empty, empty] at equal
    rw [List.length_cons] at early
    push_cast at early
    have count_nonneg : 0 ≤ (readings.length : ℤ) * spacing permitsPerSecond :=
      mul_nonneg (Int.natCast_nonneg _) spacing_nonneg
    have next_eq : (limiter.reserved Java.doubles 1 reading).nextFreeTicketMicros =
        limiter.nextFreeTicketMicros + spacing permitsPerSecond := by
      rw [equal]
      have nonneg := atRate.bursty.next_nonneg
      rw [add_mul, one_mul] at early
      dsimp only
      omega
    have left_empty : (limiter.reserved Java.doubles 1 reading).storedPermits = 0 := by
      rw [equal]
      simp [Java.doubles.round_zero]
    have later : ∀ (turn : ℕ) (reading' : ℤ), readings[turn]? = some reading' →
        reading' ≤ (limiter.reserved Java.doubles 1 reading).nextFreeTicketMicros +
          turn * spacing permitsPerSecond := by
      intro turn reading' present
      have bound := onTime (turn + 1) reading' present
      rw [next_eq]
      push_cast at bound
      linarith
    have rest := ih (atRate.reserved isLong one_pos) left_empty later (by rw [next_eq]; linarith)
    rw [serve_acquires, List.map_cons, rest, next_eq, List.length_cons, List.range_succ_eq_map, List.map_cons,
      List.map_map]
    congr 1
    · simp [ticket, ready]
    · apply List.map_congr_left
      intro turn _
      simp only [Function.comp_apply]
      push_cast
      ring

/-- A loop that keeps the limiter busy gets its permits at a fixed distance, the whole microseconds of the rate's. -/
theorem acquired_at_spacing {createdMicros : ℤ} (isDouble : Java.double permitsPerSecond = permitsPerSecond)
    (start : 0 ≤ createdMicros) (created : create Java.doubles permitsPerSecond createdMicros = .ok limiter)
    (onTime : ∀ (turn : ℕ) (reading : ℤ), readings[turn]? = some reading →
      reading ≤ createdMicros + turn * spacing permitsPerSecond)
    (early : createdMicros + readings.length * spacing permitsPerSecond ≤ Java.longMaxValue) :
    (limiter.serve Java.doubles (acquires readings)).map Ticket.momentAvailable =
      (List.range readings.length).map fun turn : ℕ => createdMicros + (turn : ℤ) * spacing permitsPerSecond := by
  obtain ⟨positive, -, empty, -, -, next⟩ := create_fields created
  rw [max_eq_right start] at next
  have spacing_nonneg : 0 ≤ spacing permitsPerSecond := by
    apply Int.floor_nonneg.mpr (Java.doubles.round_nonneg (div_nonneg _ positive.le))
    norm_num [microsInSecond]
  have count_nonneg : 0 ≤ (readings.length : ℤ) * spacing permitsPerSecond :=
    mul_nonneg (Int.natCast_nonneg _) spacing_nonneg
  have atRate := AtRate.of_create isDouble (by linarith) created
  rw [← next] at onTime early
  have saturated := serve_saturated atRate empty onTime early
  rwa [next] at saturated

theorem acquired_at_spacing_third :
    ((doSetRate Java.doubles (fresh (.bursty ⟨1⟩)) 300000 5).serve Java.doubles (acquires [5, 8])).map
        Ticket.momentAvailable =
      (List.range 2).map fun turn : ℕ => 5 + (turn : ℤ) * spacing 300000 := by
  have third : spacing 300000 = 3 := by decide +kernel
  refine @acquired_at_spacing 300000 _ [5, 8] 5 (by decide +kernel) (by decide) rfl ?_ (by decide +kernel)
  intro turn reading present
  rw [third]
  match turn, present with
  | 0, rfl => decide
  | 1, rfl => decide

theorem serve_frequent (atRate : AtRate permitsPerSecond limiter) (frequent : spacing permitsPerSecond = 0)
    (inOrder : (limiter.nextFreeTicketMicros :: readings).IsChain (· ≤ ·))
    (isLong : ∀ reading ∈ readings, reading ≤ Java.longMaxValue) :
    (limiter.serve Java.doubles (acquires readings)).map Ticket.momentAvailable = readings := by
  induction readings generalizing limiter with
  | nil => rfl
  | cons reading readings ih =>
    obtain ⟨later, inOrder⟩ := List.isChain_cons_cons.mp inOrder
    obtain ⟨reading_long, isLong⟩ := List.forall_mem_cons.mp isLong
    have ready := atRate.bursty.resync reading_long
    have synced := atRate.bursty.resync_next reading_long
    rw [max_eq_right later] at synced
    have again : AtRate permitsPerSecond (limiter.resync Java.doubles reading) :=
      ⟨ready, atRate.positive, Bursty.resync_max.trans atRate.max_eq, Bursty.resync_stable.trans atRate.stable_eq⟩
    have equal := atRate.bursty.reserved_eq 1 reading_long
    dsimp only at equal
    rw [again.wait_of_frequent frequent, add_zero, synced, min_eq_right reading_long] at equal
    have next_eq : (limiter.reserved Java.doubles 1 reading).nextFreeTicketMicros = reading := by rw [equal]
    have rest := ih (atRate.reserved reading_long one_pos) (by rwa [next_eq]) isLong
    rw [serve_acquires, List.map_cons, rest]
    simp [ticket, synced]

/-- Above a permit each microsecond a limiter of whole microseconds limits nothing. -/
theorem never_waits_above_million {createdMicros : ℤ} (isDouble : Java.double permitsPerSecond = permitsPerSecond)
    (start : 0 ≤ createdMicros) (created : create Java.doubles permitsPerSecond createdMicros = .ok limiter)
    (above : 1000000 * (1 + 1 / 2 ^ 50) ≤ permitsPerSecond) (inOrder : (createdMicros :: readings).IsChain (· ≤ ·))
    (isLong : ∀ reading ∈ createdMicros :: readings, reading ≤ Java.longMaxValue) :
    (limiter.serve Java.doubles (acquires readings)).map Ticket.momentAvailable = readings := by
  obtain ⟨created_long, isLong⟩ := List.forall_mem_cons.mp isLong
  obtain ⟨positive, -, -, -, -, next⟩ := create_fields created
  rw [max_eq_right start] at next
  have atRate := AtRate.of_create isDouble created_long created
  have frequent : spacing permitsPerSecond = 0 := by
    have quotient : microsInSecond / permitsPerSecond ≤ 1 / (1 + 1 / 2 ^ 50) := by
      rw [microsInSecond, div_le_div_iff₀ positive (by norm_num)]
      linarith
    have rounded := Java.doubles.round_le atRate.exact_nonneg
    have unit : Java.doubles.unit = 1 / 2 ^ 53 := rfl
    rw [unit] at rounded
    rw [spacing, Int.floor_eq_zero_iff]
    refine ⟨Java.doubles.round_nonneg atRate.exact_nonneg, ?_⟩
    calc Java.double (microsInSecond / permitsPerSecond)
        ≤ (1 + 1 / 2 ^ 53) * (microsInSecond / permitsPerSecond) := rounded
      _ ≤ (1 + 1 / 2 ^ 53) * (1 / (1 + 1 / 2 ^ 50)) := mul_le_mul_of_nonneg_left quotient (by norm_num)
      _ < 1 := by norm_num
  exact serve_frequent atRate frequent (by rwa [next]) isLong

theorem never_waits_at_two_million :
    ((doSetRate Java.doubles (fresh (.bursty ⟨1⟩)) 2000000 5).serve Java.doubles (acquires [5, 5, 5])).map
      Ticket.momentAvailable = [5, 5, 5] :=
  @never_waits_above_million 2000000 _ [5, 5, 5] 5 (by decide +kernel) (by decide) rfl (by norm_num) (by decide)
    (by decide)

end PerfTestProof
