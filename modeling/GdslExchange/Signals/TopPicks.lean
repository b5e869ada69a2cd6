/-
This file models the picks of the snapshots of several symbols: the score of a BUY is its confidence
times its share of the capital, and a BUY that is recommended no capital is scored as if it were
recommended one percent. Such a symbol can stand before one that is to be bought.
-/

import GdslExchange.Signals.ProvidersHub

namespace GdslExchange.Signals.ProvidersHub

open SignalDirection

/-- What an `EnhancedSignalSnapshot` is made from. -/
structure Snapshot where
  symbol : String
  providers : List Provider
  change24hPct : Option ℚ

def Snapshot.consensus (snapshot : Snapshot) : Consensus := consensusOf snapshot.providers

def Snapshot.recommendation (snapshot : Snapshot) : Recommendation :=
  recommendationFrom snapshot.providers snapshot.consensus snapshot.change24hPct

def Snapshot.capitalFraction (snapshot : Snapshot) : ℚ := snapshot.recommendation.capitalFraction

structure Pick where
  symbol : String
  score : ℚ
  action : SignalDirection
  sizingLabel : SizingLabel

def directional : SignalDirection → ℚ
  | .buy => 1
  | .sell => -1
  | .hold => 0

def Snapshot.score (snapshot : Snapshot) : ℚ :=
  directional snapshot.consensus.signal * snapshot.consensus.confidence *
    if snapshot.capitalFraction = 0 then 1 / 100 else snapshot.capitalFraction

def Snapshot.pick (snapshot : Snapshot) : Pick where
  symbol := snapshot.symbol
  score := snapshot.score
  action := snapshot.consensus.signal
  sizingLabel := snapshot.recommendation.sizingLabel

/-- A symbol whose snapshot could not be computed is left out. -/
def okSnapshots (settled : List (Option Snapshot)) : List Snapshot := settled.reduceOption

def topPicks (settled : List (Option Snapshot)) : List Pick :=
  (((okSnapshots settled).map Snapshot.pick).mergeSort fun a b => b.score ≤ a.score).take 5

/-! ### The property and the condition -/

/-- The snapshots in the order in which their picks are ranked. -/
def ranked (snapshots : List Snapshot) : List Snapshot :=
  snapshots.mergeSort fun a b => b.score ≤ a.score

/-- A BUY to which capital is recommended. -/
def Snapshot.Funded (snapshot : Snapshot) : Prop :=
  snapshot.consensus.signal = .buy ∧ 0 < snapshot.capitalFraction

instance (snapshot : Snapshot) : Decidable snapshot.Funded :=
  inferInstanceAs (Decidable (_ ∧ _))

/-- A BUY to which none is recommended. -/
def Snapshot.Unfunded (snapshot : Snapshot) : Prop :=
  snapshot.consensus.signal = .buy ∧ snapshot.capitalFraction = 0

instance (snapshot : Snapshot) : Decidable snapshot.Unfunded :=
  inferInstanceAs (Decidable (_ ∧ _))

/-- The first of these may stand above the second. -/
structure Fair (above below : Snapshot) : Prop where
  funded : below.Funded → above.capitalFraction ≠ 0
  larger : above.consensus.signal = .buy → below.consensus.signal = .buy →
    above.consensus.confidence = below.consensus.confidence →
      below.capitalFraction ≤ above.capitalFraction

/-- Whatever is picked may stand above all that is ranked after it. -/
def InvestableFirst (snapshots : List Snapshot) : Prop :=
  ∀ before above after, ranked snapshots = before ++ above :: after → before.length < 5 →
    ∀ below ∈ after, Fair above below

/-- A BUY with capital beats one without, by its share of its confidence or by being given first. -/
def Beats (funded unfunded : Snapshot × ℕ) : Prop :=
  let share := funded.1.consensus.confidence * funded.1.capitalFraction
  unfunded.1.consensus.confidence * (1 / 100) < share ∨
    unfunded.1.consensus.confidence * (1 / 100) = share ∧ funded.2 < unfunded.2

instance (funded unfunded : Snapshot × ℕ) : Decidable (Beats funded unfunded) :=
  inferInstanceAs (Decidable (_ ∨ _))

/-- A BUY without capital is beaten by every BUY with capital, or by five of them. -/
def Outbid (snapshots : List Snapshot) : Prop :=
  ∀ unfunded ∈ snapshots.zipIdx, unfunded.1.Unfunded →
    (∀ funded ∈ snapshots.zipIdx, funded.1.Funded → Beats funded unfunded) ∨
      5 ≤ snapshots.zipIdx.countP fun funded => funded.1.Funded ∧ Beats funded unfunded

/-! ### Scores -/

section Scores

variable {snapshot : Snapshot}

theorem capitalFraction_nonneg (snapshot : Snapshot) : 0 ≤ snapshot.capitalFraction := by
  have pct := sizingPct_nonneg snapshot.consensus (4 ≤ snapshot.providers.length)
  refine div_nonneg ?_ (by norm_num)
  split_ifs
  · exact mul_nonneg pct (by norm_num)
  · exact pct

theorem confidence_nonneg (snapshot : Snapshot) : 0 ≤ snapshot.consensus.confidence := by
  unfold Snapshot.consensus consensusOf
  split_ifs
  · exact le_rfl
  · exact le_max_left _ _

theorem confidence_pos (isBuy : snapshot.consensus.signal = .buy) :
    0 < snapshot.consensus.confidence := by
  unfold Snapshot.consensus at *
  have nonempty : snapshot.providers ≠ [] := by
    intro none
    rw [none] at isBuy
    exact absurd isBuy (by decide)
  obtain ⟨isWinner, isConfidence⟩ := consensusOf_of_ne_nil nonempty
  obtain ⟨sells, -⟩ := winnerOf_eq_buy_iff.mp (isWinner ▸ isBuy)
  have sold : 0 ≤ weighted snapshot.providers .sell :=
    List.sum_nonneg fun weight member => by
      obtain ⟨provider, -, rfl⟩ := List.mem_map.mp member
      exact clamp01_mul_nonneg provider
  have reached : weighted snapshot.providers .buy ≤ most (weighted snapshot.providers) :=
    (le_max_left _ _).trans (le_max_left _ _)
  rw [isConfidence]
  refine lt_max_of_lt_right (lt_min one_pos ?_)
  exact div_pos ((sold.trans_lt sells).trans_le reached) (totalWeight_pos nonempty)

theorem score_of_funded (funded : snapshot.Funded) :
    snapshot.score = snapshot.consensus.confidence * snapshot.capitalFraction := by
  unfold Snapshot.score
  rw [funded.1, if_neg funded.2.ne', directional, one_mul]

theorem score_of_unfunded (unfunded : snapshot.Unfunded) :
    snapshot.score = snapshot.consensus.confidence * (1 / 100) := by
  unfold Snapshot.score
  rw [unfunded.1, if_pos unfunded.2, directional, one_mul]

theorem score_pos_iff : 0 < snapshot.score ↔ snapshot.consensus.signal = .buy := by
  constructor
  · intro positive
    by_contra notBuy
    refine absurd positive (not_lt.mpr ?_)
    have share : 0 ≤ if snapshot.capitalFraction = 0 then 1 / 100 else snapshot.capitalFraction := by
      split_ifs
      · norm_num
      · exact capitalFraction_nonneg snapshot
    refine mul_nonpos_of_nonpos_of_nonneg ?_ share
    refine mul_nonpos_of_nonpos_of_nonneg ?_ (confidence_nonneg snapshot)
    rcases isSignal : snapshot.consensus.signal with _ | _ | _
    · exact absurd isSignal notBuy
    all_goals decide
  · intro isBuy
    rcases (capitalFraction_nonneg snapshot).eq_or_lt with none | some
    · rw [score_of_unfunded ⟨isBuy, none.symm⟩]
      exact mul_pos (confidence_pos isBuy) (by norm_num)
    · rw [score_of_funded ⟨isBuy, some⟩]
      exact mul_pos (confidence_pos isBuy) some

end Scores

/-! ### The order of the picks -/

/-- The first has the higher score, or the same one and is given before the second. -/
def Above (above below : Snapshot × ℕ) : Prop :=
  below.1.score < above.1.score ∨ below.1.score = above.1.score ∧ above.2 < below.2

theorem Above.score_le {above below : Snapshot × ℕ} (isAbove : Above above below) :
    below.1.score ≤ above.1.score := isAbove.elim le_of_lt fun tied => tied.1.le

theorem Above.asymm {above below : Snapshot × ℕ} (isAbove : Above above below) :
    ¬ Above below above := by
  rintro (higher | ⟨tied, earlier⟩)
  · exact absurd isAbove.score_le (not_le.mpr higher)
  · rcases isAbove with higher | ⟨-, later⟩
    · exact absurd tied.le (not_le.mpr higher)
    · exact absurd earlier (not_lt.mpr later.le)

theorem beats_iff_above {funded unfunded : Snapshot × ℕ} (isFunded : funded.1.Funded)
    (isUnfunded : unfunded.1.Unfunded) : Beats funded unfunded ↔ Above funded unfunded := by
  unfold Beats Above
  rw [score_of_funded isFunded, score_of_unfunded isUnfunded]

/-- The snapshots with their places in the input, the highest score first. -/
def placed (snapshots : List Snapshot) : List (Snapshot × ℕ) :=
  snapshots.zipIdx.mergeSort (List.zipIdxLE fun a b => b.score ≤ a.score)

section Order

variable (snapshots : List Snapshot)

theorem map_fst_placed : (placed snapshots).map Prod.fst = ranked snapshots := List.mergeSort_zipIdx

theorem pairwise_placed : (placed snapshots).Pairwise Above := by
  have sorted : (placed snapshots).Pairwise fun a b =>
      List.zipIdxLE (fun a b : Snapshot => b.score ≤ a.score) a b :=
    List.pairwise_mergeSort
      (List.zipIdxLE_trans fun a b c first second => by
        rw [decide_eq_true_eq] at *
        exact second.trans first)
      (List.zipIdxLE_total fun a b => by simpa using le_total b.score a.score) _
  have places : (placed snapshots).Pairwise fun a b => a.2 ≠ b.2 := by
    have nodup : ((placed snapshots).map Prod.snd).Nodup := by
      refine ((List.mergeSort_perm _ _).map Prod.snd).nodup_iff.mpr ?_
      rw [List.zipIdx_map_snd]
      exact List.nodup_range'
    exact List.pairwise_map.mp nodup
  refine sorted.imp₂ (fun a b le different => ?_) places
  unfold List.zipIdxLE at le
  unfold Above
  grind

variable {snapshots}

theorem mem_placed {given : Snapshot × ℕ} : given ∈ placed snapshots ↔ given ∈ snapshots.zipIdx :=
  List.mem_mergeSort

/-- What is ranked, with its place, and what stands before and after it. -/
theorem investableFirst_iff_placed : InvestableFirst snapshots ↔
    ∀ before above after, placed snapshots = before ++ above :: after → before.length < 5 →
      ∀ below ∈ after, Fair above.1 below.1 := by
  unfold InvestableFirst
  rw [← map_fst_placed]
  constructor
  · intro first before above after split few below member
    refine first (before.map Prod.fst) above.1 (after.map Prod.fst) ?_ ?_ below.1
      (List.mem_map_of_mem member)
    · rw [split, List.map_append, List.map_cons]
    · rwa [List.length_map]
  · intro first before above after split few below member
    obtain ⟨front, back, isPlaced, rfl, isBack⟩ := List.map_eq_append_iff.mp split
    obtain ⟨given, rest, rfl, rfl, rfl⟩ := List.map_eq_cons_iff.mp isBack
    obtain ⟨later, among, rfl⟩ := List.mem_map.mp member
    exact first front given rest isPlaced (by rwa [List.length_map] at few) later among

section

variable {before after : List (Snapshot × ℕ)} {above : Snapshot × ℕ}
  (split : placed snapshots = before ++ above :: after)
include split

theorem above_of_split {below : Snapshot × ℕ} (later : below ∈ after) : Above above below :=
  List.rel_of_pairwise_cons (List.pairwise_append.mp (split ▸ pairwise_placed snapshots)).2.1 later

/-- The BUYs that beat a symbol stand before it. -/
theorem countP_le_before (isUnfunded : above.1.Unfunded) :
    snapshots.zipIdx.countP (fun funded => funded.1.Funded ∧ Beats funded above) ≤
      before.length := by
  have none : (above :: after).countP
      (fun funded => funded.1.Funded ∧ Beats funded above) = 0 := by
    refine List.countP_eq_zero.mpr fun later member beats => ?_
    obtain ⟨isFunded, beaten⟩ := of_decide_eq_true beats
    rw [beats_iff_above isFunded isUnfunded] at beaten
    obtain rfl | among := List.mem_cons.mp member
    · exact beaten.asymm beaten
    · exact (above_of_split split among).asymm beaten
  rw [← (List.mergeSort_perm _ _).countP_eq]
  show (placed snapshots).countP _ ≤ _
  rw [split, List.countP_append, none]
  exact List.countP_le_length

end

/-- A BUY without capital that stands above one with capital is not outbid. -/
theorem funded_of_outbid (outbid : Outbid snapshots) {before after : List (Snapshot × ℕ)}
    {above below : Snapshot × ℕ} (split : placed snapshots = before ++ above :: after)
    (few : before.length < 5) (later : below ∈ after) (funded : below.1.Funded) :
    above.1.capitalFraction ≠ 0 := by
  intro none
  have isAbove := above_of_split split later
  have isUnfunded : above.1.Unfunded :=
    ⟨score_pos_iff.mp ((score_pos_iff.mpr funded.1).trans_le isAbove.score_le), none⟩
  have given (pair : Snapshot × ℕ) (member : pair ∈ above :: after) : pair ∈ snapshots.zipIdx := by
    rw [← mem_placed, split]
    exact List.mem_append_right _ member
  obtain all | five := outbid above (given above List.mem_cons_self) isUnfunded
  · have beats := all below (given below (List.mem_cons_of_mem _ later)) funded
    exact isAbove.asymm ((beats_iff_above funded isUnfunded).mp beats)
  · exact absurd (five.trans (countP_le_before split isUnfunded)) (not_le.mpr few)

theorem investableFirst_of_outbid (outbid : Outbid snapshots) : InvestableFirst snapshots := by
  rw [investableFirst_iff_placed]
  intro before above after split few below later
  refine ⟨funded_of_outbid outbid split few later, fun aboveBuys belowBuys same => ?_⟩
  by_contra more
  have funded : below.1.Funded :=
    ⟨belowBuys, (capitalFraction_nonneg above.1).trans_lt (not_le.mp more)⟩
  have some := funded_of_outbid outbid split few later funded
  have aboveFunded : above.1.Funded :=
    ⟨aboveBuys, lt_of_le_of_ne (capitalFraction_nonneg above.1) some.symm⟩
  have le := (above_of_split split later).score_le
  rw [score_of_funded aboveFunded, score_of_funded funded, same] at le
  exact more (le_of_mul_le_mul_left le (confidence_pos belowBuys))

/-- Before the first BUY without capital there are only BUYs with capital. -/
theorem exists_first_unfunded {unfunded : Snapshot × ℕ} (member : unfunded ∈ placed snapshots)
    (isUnfunded : unfunded.1.Unfunded) : ∃ before above after,
      placed snapshots = before ++ above :: after ∧
        (∀ funded ∈ before, funded.1.Funded ∧ Beats funded unfunded) ∧ above.1.Unfunded := by
  have notFunded : ¬ unfunded.1.Funded := fun funded => funded.2.ne' isUnfunded.2
  have some : ((placed snapshots).find? fun given => ¬ given.1.Funded).isSome :=
    List.find?_isSome.mpr ⟨unfunded, member, decide_eq_true notFunded⟩
  obtain ⟨above, found⟩ := Option.isSome_iff_exists.mp some
  obtain ⟨isFirst, before, after, split, allFunded⟩ := List.find?_eq_some_iff_append.mp found
  have funded (given : Snapshot × ℕ) (early : given ∈ before) : given.1.Funded := by
    simpa using allFunded given early
  rw [split] at member
  obtain early | here := List.mem_append.mp member
  · exact absurd (funded unfunded early) notFunded
  refine ⟨before, above, after, split, fun given early => ⟨funded given early, ?_⟩, ?_⟩
  · rw [beats_iff_above (funded given early) isUnfunded]
    exact (List.pairwise_append.mp (split ▸ pairwise_placed snapshots)).2.2 given early unfunded here
  · obtain rfl | later := List.mem_cons.mp here
    · exact isUnfunded
    · have le := (above_of_split split later).score_le
      have isBuy := score_pos_iff.mp ((score_pos_iff.mpr isUnfunded.1).trans_le le)
      refine ⟨isBuy, ?_⟩
      by_contra capital
      exact of_decide_eq_true isFirst
        ⟨isBuy, lt_of_le_of_ne (capitalFraction_nonneg above.1) (Ne.symm capital)⟩

theorem outbid_of_investableFirst (first : InvestableFirst snapshots) : Outbid snapshots := by
  intro unfunded member isUnfunded
  rw [← mem_placed] at member
  obtain ⟨before, above, after, split, allFunded, aboveUnfunded⟩ :=
    exists_first_unfunded member isUnfunded
  by_cases few : before.length < 5
  · refine Or.inl fun funded given isFunded => ?_
    rw [← mem_placed, split] at given
    obtain early | here := List.mem_append.mp given
    · exact (allFunded funded early).2
    · obtain rfl | later := List.mem_cons.mp here
      · exact absurd aboveUnfunded.2 isFunded.2.ne'
      · exact absurd aboveUnfunded.2
          ((investableFirst_iff_placed.mp first before above after split few funded later).funded
            isFunded)
  · refine Or.inr ((not_lt.mp few).trans ?_)
    rw [← (List.mergeSort_perm _ _).countP_eq]
    show _ ≤ (placed snapshots).countP _
    rw [split, List.countP_append]
    refine Nat.le_add_right_of_le (List.countP_eq_length.mpr fun funded early => ?_).ge
    exact decide_eq_true (allFunded funded early)

end Order

theorem topPicks_eq (settled : List (Option Snapshot)) :
    topPicks settled = ((ranked (okSnapshots settled)).take 5).map Snapshot.pick := by
  unfold topPicks ranked
  rw [List.map_take, @List.map_mergeSort _ _ _ (fun a b : Pick => b.score ≤ a.score)]
  exact fun _ _ _ _ => rfl

/-- The picks are the first five of the ranking, and put the symbols with capital first just when
every BUY without capital is outbid. -/
theorem topPicks_investableFirst_iff (settled : List (Option Snapshot)) :
    topPicks settled = ((ranked (okSnapshots settled)).take 5).map Snapshot.pick ∧
      (InvestableFirst (okSnapshots settled) ↔ Outbid (okSnapshots settled)) :=
  ⟨topPicks_eq settled, outbid_of_investableFirst, investableFirst_of_outbid⟩

/-- Three providers that are sure of a BUY are too few. -/
def threeSure : Snapshot where
  symbol := "XRPUSDT"
  providers := List.replicate 3 ((halfSure .buy).withConfidence 1 ⟨zero_le_one, le_rfl⟩)
  change24hPct := none

/-- Three of four providers are half sure of a BUY. -/
def threeOfFour : Snapshot where
  symbol := "BTCUSDT"
  providers := [.buy, .buy, .buy, .hold].map halfSure
  change24hPct := none

theorem not_investableFirst_threeSure :
    ¬ InvestableFirst (okSnapshots [some threeOfFour, some threeSure]) := by
  intro first
  have values : threeSure.Unfunded ∧ threeOfFour.Funded ∧
      ¬ Beats (threeOfFour, 0) (threeSure, 1) := by decide +kernel
  obtain ⟨unfunded, funded, unbeaten⟩ := values
  obtain all | five := outbid_of_investableFirst first (threeSure, 1)
    (List.mem_cons_of_mem _ List.mem_cons_self) unfunded
  · exact unbeaten (all (threeOfFour, 0) List.mem_cons_self funded)
  · exact absurd (five.trans List.countP_le_length) (by decide)

end GdslExchange.Signals.ProvidersHub
