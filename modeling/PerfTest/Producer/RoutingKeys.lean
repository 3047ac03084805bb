import Mathlib.Data.List.Rotate
import PerfTest.Java.Numbers
import PerfTest.Systems.Turns

namespace PerfTestModel

open Java (RuntimeException)

structure CachingRoutingKeyGenerator where
  keys : List String
  count : ℕ
  keys_pos : 0 < keys.length
  count_le : count ≤ keys.length

namespace CachingRoutingKeyGenerator

/-- The text of the random identifiers comes from java.util.UUID. -/
def create (randomUUID : ℕ → String) (cacheSize : ℤ) : Except RuntimeException CachingRoutingKeyGenerator :=
  if small : cacheSize ≤ 0 then .error (.illegalArgument (toString cacheSize))
  else
    .ok {
      keys := (List.range cacheSize.toNat).map randomUUID
      count := 0
      keys_pos := by
        rw [List.length_map, List.length_range]
        omega
      count_le := Nat.zero_le _ }

variable (generator : CachingRoutingKeyGenerator)

def get : String × CachingRoutingKeyGenerator :=
  let count := if generator.count = generator.keys.length then 0 else generator.count
  (generator.keys.get ⟨count % generator.keys.length, Nat.mod_lt _ generator.keys_pos⟩,
    { generator with
      count := count + 1
      count_le := by
        have bound := generator.count_le
        have several := generator.keys_pos
        dsimp only [count]
        split <;> omega })

def after : ℕ → CachingRoutingKeyGenerator
  | 0 => generator
  | messages + 1 => (after messages).get.2

def routingKeys (generator : CachingRoutingKeyGenerator) : ℕ → List String
  | 0 => []
  | messages + 1 => generator.get.1 :: routingKeys generator.get.2 messages

end CachingRoutingKeyGenerator

end PerfTestModel

namespace PerfTestProof

open PerfTestModel PerfTestModel.CachingRoutingKeyGenerator Systems

variable {generator : CachingRoutingKeyGenerator}

theorem get_keys (generator : CachingRoutingKeyGenerator) : generator.get.2.keys = generator.keys := rfl

theorem get_key (generator : CachingRoutingKeyGenerator) :
    generator.keys[generator.count % generator.keys.length]? = some generator.get.1 := by
  have index : generator.count % generator.keys.length =
      (if generator.count = generator.keys.length then 0 else generator.count) % generator.keys.length := by
    split
    next last => rw [last, Nat.mod_self, Nat.zero_mod]
    next => rfl
  unfold CachingRoutingKeyGenerator.get
  dsimp only
  rw [List.get_eq_getElem, ← List.getElem?_eq_getElem]
  exact congrArg (generator.keys[·]?) index

theorem get_count (generator : CachingRoutingKeyGenerator) :
    generator.get.2.count ≡ generator.count + 1 [MOD generator.keys.length] := by
  unfold CachingRoutingKeyGenerator.get
  dsimp only
  split
  next last =>
    rw [last]
    exact (Nat.ModEq.add_right 1 (Nat.modEq_zero_iff_dvd.mpr (Nat.dvd_refl _))).symm
  next => rfl

theorem after_keys (generator : CachingRoutingKeyGenerator) (messages : ℕ) :
    (generator.after messages).keys = generator.keys := by
  induction messages with
  | zero => rfl
  | succ messages ih => exact ih

theorem length_routingKeys (generator : CachingRoutingKeyGenerator) (messages : ℕ) :
    (generator.routingKeys messages).length = messages := by
  induction messages generalizing generator with
  | zero => rfl
  | succ messages ih => rw [routingKeys, List.length_cons, ih]

theorem routingKeys_at {messages position : ℕ} (within : position < messages) :
    (generator.routingKeys messages)[position]? =
      generator.keys[(generator.count + position) % generator.keys.length]? := by
  induction messages generalizing generator position with
  | zero => exact absurd within (Nat.not_lt_zero position)
  | succ messages ih =>
    rw [routingKeys]
    cases position with
    | zero => exact (get_key generator).symm
    | succ position =>
      rw [List.getElem?_cons_succ, ih (Nat.lt_of_succ_lt_succ within), get_keys]
      have same : (generator.get.2.count + position) % generator.keys.length =
          (generator.count + 1 + position) % generator.keys.length := Nat.ModEq.add_right position (get_count generator)
      rw [same, Nat.add_right_comm, Nat.add_assoc]

theorem routingKeys_inTurn (messages : ℕ) :
    InTurn (generator.keys.rotate generator.count) (generator.routingKeys messages) := by
  intro position key used
  have within : position < messages := by
    rw [← length_routingKeys generator messages]
    exact (List.getElem?_eq_some_iff.mp used).1
  rw [routingKeys_at within] at used
  rw [List.length_rotate, List.getElem?_rotate (Nat.mod_lt _ generator.keys_pos), Nat.mod_add_mod, Nat.add_comm]
  exact used

theorem create_keys {randomUUID : ℕ → String} {cacheSize : ℤ} (created : create randomUUID cacheSize = .ok generator) :
    generator.keys = (List.range cacheSize.toNat).map randomUUID := by
  unfold create at created
  split at created
  · cases created
  · cases created
    rfl

/-- Any stretch of messages uses each cached key as often as their number tells, up to one. -/
theorem routing_keys_spread {randomUUID : ℕ → String} {cacheSize : ℤ}
    (created : create randomUUID cacheSize = .ok generator) (distinct : generator.keys.Nodup)
    (earlier messages : ℕ) {key : String} (cached : key ∈ generator.keys) :
    messages / cacheSize.toNat ≤ ((generator.after earlier).routingKeys messages).count key ∧
      ((generator.after earlier).routingKeys messages).count key ≤
        messages / cacheSize.toNat + if messages % cacheSize.toNat = 0 then 0 else 1 := by
  have length : (generator.after earlier).keys.length = cacheSize.toNat := by
    rw [after_keys, create_keys created, List.length_map, List.length_range]
  have several : 0 < cacheSize.toNat := length ▸ (generator.after earlier).keys_pos
  have nodup : ((generator.after earlier).keys.rotate (generator.after earlier).count).Nodup := by
    rw [List.nodup_rotate, after_keys]
    exact distinct
  rw [← after_keys generator earlier, ← List.mem_rotate (n := (generator.after earlier).count)] at cached
  obtain ⟨turn, at_turn⟩ := List.mem_iff_getElem?.mp cached
  have count := (routingKeys_inTurn messages).count_eq nodup at_turn
  rw [List.length_rotate, length, length_routingKeys, Nat.count_modEq_card _ several] at count
  rw [count]
  constructor
  · exact Nat.le_add_right _ _
  · apply Nat.add_le_add_left
    split <;> split <;> omega

def randomIdentifiers (number : ℕ) : String :=
  if number % 2 = 0 then "f81d4fae-7dec-41d0-a765-00a0c91e6bf6" else "123e4567-e89b-42d3-a456-426614174000"

theorem routing_keys_spread_five :
    ∃ generator, create randomIdentifiers 2 = .ok generator ∧
      2 ≤ ((generator.after 1).routingKeys 5).count (randomIdentifiers 0) ∧
      ((generator.after 1).routingKeys 5).count (randomIdentifiers 0) ≤ 3 := by
  obtain ⟨generator, created⟩ : ∃ generator, create randomIdentifiers 2 = .ok generator := ⟨_, rfl⟩
  have keys : generator.keys = [randomIdentifiers 0, randomIdentifiers 1] := create_keys created
  have distinct : generator.keys.Nodup := by
    rw [keys]
    decide
  have cached : randomIdentifiers 0 ∈ generator.keys := by
    rw [keys]
    exact List.mem_cons_self
  exact ⟨generator, created, routing_keys_spread created distinct 1 5 cached⟩

end PerfTestProof
