/-
This file models how the holdings of a Solana address are listed: its native balance, and the
accounts of both token programs merged by mint, unless a list that was read in the last ten minutes
knows of more mints.

Of the accounts of one mint the largest is listed, not their sum. So the list is right exactly where
no two accounts of a mint hold something and no older list is served in its place.
-/

import GdslExchange.Jupiter.Swap
import GdslExchange.Numeric.HighWater

namespace GdslExchange.Wallet.Solana

open Jupiter (solNativeMint)
open Numeric

/-! ### Accounts -/

structure SolanaHolding where
  mint : String
  amount : ℚ
  decimals : ℕ
deriving DecidableEq

structure TokenAmount where
  uiAmount : Option ℚ
  amount : Option ℕ
  decimals : Option ℕ

/-- `account.data.parsed.info`, where the RPC could parse the account. -/
structure ParsedInfo where
  mint : Option String
  tokenAmount : Option TokenAmount

def parseTokenAccountInfo (account : Option ParsedInfo) : Option SolanaHolding := do
  let info ← account
  let mint ← info.mint
  let tokenAmount ← info.tokenAmount
  let decimals ← tokenAmount.decimals
  guard (mint ≠ "")
  let amount ← tokenAmount.uiAmount.or
    (tokenAmount.amount.map fun raw : ℕ => (raw : ℚ) / 10 ^ decimals)
  guard (0 < amount)
  return ⟨mint, amount, decimals⟩

def replaced (byMint : List SolanaHolding) (row : SolanaHolding) : List SolanaHolding :=
  byMint.map fun held => if held.mint = row.mint then row else held

/-- A row is written to the map `byMint`, which keeps the order in which its mints came. -/
def mergeRow (byMint : List SolanaHolding) (row : SolanaHolding) : List SolanaHolding :=
  match byMint.find? fun held => held.mint = row.mint with
  | none => byMint ++ [row]
  | some prev =>
    if row.amount > prev.amount then replaced byMint row else byMint

def mergeAccounts (byMint : List SolanaHolding) (accounts : List (Option ParsedInfo)) :
    List SolanaHolding :=
  accounts.foldl
    (fun byMint account =>
      match parseTokenAccountInfo account with
      | none => byMint
      | some row => mergeRow byMint row)
    byMint

/-- An enumeration that fails adds nothing. -/
def enumerate (byMint : List SolanaHolding) :
    Except String (List (Option ParsedInfo)) → List SolanaHolding
  | .ok value => mergeAccounts byMint value
  | .error _ => byMint

/-! ### The list -/

/-- An entry of `holdingsLastGood`. -/
structure LastGood where
  holdings : List SolanaHolding
  splCount : ℕ
  readAt : ℤ

def holdingsLastGoodTtlMs : ℤ := 10 * 60000

def lamportsPerSol : ℚ := 10 ^ 9

/-- What the RPC answers to one enumeration, and the time at its end. -/
structure Answers where
  balance : Except String ℕ
  balanceAgain : Except String ℕ
  legacy : Except String (List (Option ParsedInfo))
  token22 : Except String (List (Option ParsedInfo))
  now : ℤ

def native (sol : ℚ) : List SolanaHolding := if 0 < sol then [⟨solNativeMint, sol, 9⟩] else []

namespace LastGood

def Fresh (now : ℤ) (cached : LastGood) : Prop := now - cached.readAt < holdingsLastGoodTtlMs

instance (now : ℤ) : DecidablePred (Fresh now) := fun _ => inferInstanceAs (Decidable (_ < _))

/-- The older list with the native balance of now. -/
def withSol (sol : ℚ) (cached : LastGood) : List SolanaHolding :=
  cached.holdings.map fun held =>
    if held.mint = solNativeMint ∧ 0 < sol then { held with amount := sol } else held

/-- The older list served for a shorter one. -/
def merged (sol : ℚ) (cached : LastGood) : List SolanaHolding :=
  if 0 < sol ∧ ¬ (cached.withSol sol).any (·.mint = solNativeMint) then
    ⟨solNativeMint, sol, 9⟩ :: cached.withSol sol
  else cached.withSol sol

end LastGood

def listSolanaHoldingsForOwner (answers : Answers) (cache : Option LastGood) :
    Except String (List SolanaHolding) × Option LastGood :=
  match answers.balance.tryCatch fun _ => answers.balanceAgain with
  | .error err => (.error err, cache)
  | .ok lamports =>
    let sol := lamports / lamportsPerSol
    let byMint := enumerate (enumerate [] answers.legacy) answers.token22
    let holdings := native sol ++ byMint
    let splCount := byMint.length
    match cache.filter fun cached => cached.Fresh answers.now with
    | some cached =>
      if cached.splCount > splCount + 1 then (.ok (cached.merged sol), cache)
      else if ¬ answers.legacy.isOk ∧ cached.splCount > 0 then (.ok (cached.withSol sol), cache)
      else if splCount > 0 then (.ok holdings, some ⟨holdings, splCount, answers.now⟩)
      else (.ok holdings, cache)
    | none => (.ok holdings, some ⟨holdings, splCount, answers.now⟩)

/-- The owner's entry after calls that are made one after another; calls that overlap share one. -/
def cacheAfter (calls : List Answers) : Option LastGood :=
  calls.foldl (fun cache answers => (listSolanaHoldingsForOwner answers cache).2) none

/-! ### What the owner holds -/

/-- A token account: so many units of a mint. The RPC states the amount itself or not. -/
structure TokenAccount where
  mint : String
  units : ℕ
  decimals : ℕ
  stated : Bool
  named : mint ≠ ""

namespace TokenAccount

def amount (account : TokenAccount) : ℚ := account.units / 10 ^ account.decimals

def parsed (account : TokenAccount) : Option ParsedInfo :=
  some
    { mint := some account.mint
      tokenAmount := some
        { uiAmount := if account.stated then some account.amount else none
          amount := some account.units
          decimals := some account.decimals } }

end TokenAccount

/-- The native balance of an address and its accounts under the two token programs. -/
structure Owner where
  lamports : ℕ
  legacy : List TokenAccount
  token22 : List TokenAccount

namespace Owner

def sol (owner : Owner) : ℚ := owner.lamports / lamportsPerSol

def accounts (owner : Owner) : List TokenAccount := owner.legacy ++ owner.token22

def holding (owner : Owner) (mint : String) : List TokenAccount :=
  owner.accounts.filter fun account => account.mint = mint ∧ 0 < account.units

def held (owner : Owner) (mint : String) : ℚ :=
  (if mint = solNativeMint then owner.sol else 0) +
    ((owner.accounts.filter (·.mint = mint)).map TokenAccount.amount).sum

/-- The mints of which an account holds something. -/
def mints (owner : Owner) : List String :=
  ((owner.accounts.filter (0 < ·.units)).map TokenAccount.mint).dedup

end Owner

/-- All enumerations of a call succeed. -/
structure Answers.Succeeds (answers : Answers) (owner : Owner) : Prop where
  balance : (answers.balance.tryCatch fun _ => answers.balanceAgain) = .ok owner.lamports
  legacy : answers.legacy = .ok (owner.legacy.map TokenAccount.parsed)
  token22 : answers.token22 = .ok (owner.token22.map TokenAccount.parsed)

def amountOf (mint : String) (holdings : List SolanaHolding) : ℚ :=
  ((holdings.filter (·.mint = mint)).map SolanaHolding.amount).sum

/-- A list holds of each mint what the owner holds, and no mint of which he holds nothing. -/
structure Sums (owner : Owner) (holdings : List SolanaHolding) : Prop where
  amounts : ∀ mint, amountOf mint holdings = owner.held mint
  held : ∀ row ∈ holdings, 0 < owner.held row.mint

/-- No two accounts of a mint hold something. -/
def OnePerMint (owner : Owner) : Prop := ∀ mint, (owner.holding mint).length ≤ 1

/-- A list that is less than ten minutes old has at least two token mints more than the owner. -/
def ServesOlder (owner : Owner) (now : ℤ) (cache : Option LastGood) : Prop :=
  ∃ cached ∈ cache, cached.Fresh now ∧ owner.mints.length + 1 < cached.splCount

/-! ### Merging -/

section Merge

variable {byMint rows : List SolanaHolding} {row : SolanaHolding} {mint : String}

def mintsOf (holdings : List SolanaHolding) : List String := holdings.map SolanaHolding.mint

theorem amountOf_append (first second : List SolanaHolding) :
    amountOf mint (first ++ second) = amountOf mint first + amountOf mint second := by
  unfold amountOf
  rw [List.filter_append, List.map_append, List.sum_append]

theorem amountOf_eq_zero (absent : mint ∉ mintsOf byMint) : amountOf mint byMint = 0 := by
  unfold amountOf
  rw [List.filter_eq_nil_iff.mpr fun held member isMint =>
    absent (List.mem_map.mpr ⟨held, member, of_decide_eq_true isMint⟩)]
  rfl

theorem amountOf_singleton (row : SolanaHolding) :
    amountOf mint [row] = if row.mint = mint then row.amount else 0 := by
  unfold amountOf
  rw [List.filter_singleton, Bool.cond_decide]
  split_ifs
  · exact List.sum_singleton
  · rfl

theorem amountOf_of_mem (nodup : (mintsOf byMint).Nodup) {held : SolanaHolding}
    (member : held ∈ byMint) : amountOf held.mint byMint = held.amount := by
  obtain ⟨before, after, rfl⟩ := List.append_of_mem member
  unfold mintsOf at nodup
  rw [List.map_append, List.map_cons, List.nodup_append, List.nodup_cons] at nodup
  obtain ⟨_, ⟨notAfter, _⟩, apart⟩ := nodup
  have notBefore : held.mint ∉ mintsOf before :=
    fun isBefore => apart _ isBefore _ List.mem_cons_self rfl
  rw [← List.singleton_append, amountOf_append, amountOf_append, amountOf_singleton, if_pos rfl,
    amountOf_eq_zero notBefore, amountOf_eq_zero notAfter, zero_add, add_zero]

theorem find_mint {prev : SolanaHolding} {mint : String}
    (found : byMint.find? (fun held => held.mint = mint) = some prev) :
    prev ∈ byMint ∧ prev.mint = mint :=
  ⟨List.mem_of_find?_eq_some found, by simpa using List.find?_some found⟩

theorem mintsOf_replaced : mintsOf (replaced byMint row) = mintsOf byMint := by
  unfold mintsOf replaced
  rw [List.map_map]
  refine List.map_congr_left fun held _ => ?_
  simp only [Function.comp]
  split_ifs with isMint
  · exact isMint.symm
  · rfl

theorem amountOf_replaced_other (other : row.mint ≠ mint) :
    amountOf mint (replaced byMint row) = amountOf mint byMint := by
  unfold amountOf replaced
  have same : byMint.filter ((fun held => decide (held.mint = mint)) ∘
      fun held => if held.mint = row.mint then row else held) =
      byMint.filter fun held => held.mint = mint := by
    refine List.filter_congr fun held _ => ?_
    simp only [Function.comp]
    split_ifs with isRow
    · rw [isRow]
    · rfl
  rw [List.filter_map, same, List.map_map]
  congr 1
  refine List.map_congr_left fun held member => ?_
  have isMint : held.mint = mint := of_decide_eq_true (List.mem_filter.mp member).2
  simp only [Function.comp]
  rw [if_neg fun isRow => other (isRow.symm.trans isMint)]

theorem amountOf_mergeRow (nodup : (mintsOf byMint).Nodup) (nonneg : 0 ≤ row.amount) :
    amountOf mint (mergeRow byMint row) =
      if row.mint = mint then max (amountOf mint byMint) row.amount else amountOf mint byMint := by
  unfold mergeRow
  split
  case h_1 isNew =>
    have absent : row.mint ∉ mintsOf byMint := by
      intro isMint
      obtain ⟨held, member, same⟩ := List.mem_map.mp isMint
      exact absurd (decide_eq_true same) (List.find?_eq_none.mp isNew held member)
    rw [amountOf_append, amountOf_singleton]
    split_ifs with isMint
    · rw [← isMint, amountOf_eq_zero absent, zero_add, max_eq_right nonneg]
    · rw [add_zero]
  case h_2 prev found =>
    obtain ⟨member, isPrev⟩ := find_mint found
    have before : amountOf row.mint byMint = prev.amount := by
      rw [← isPrev, amountOf_of_mem nodup member]
    split_ifs with larger isMint isMint
    · have written : row ∈ replaced byMint row :=
        List.mem_map.mpr ⟨prev, member, if_pos isPrev⟩
      rw [← isMint, before, max_eq_right larger.le]
      refine amountOf_of_mem ?_ written
      rw [mintsOf_replaced]
      exact nodup
    · exact amountOf_replaced_other isMint
    · rw [← isMint, before, max_eq_left (not_lt.mp larger)]
    · rfl

theorem mem_mintsOf_mergeRow :
    mint ∈ mintsOf (mergeRow byMint row) ↔ mint ∈ mintsOf byMint ∨ mint = row.mint := by
  unfold mergeRow
  split
  case h_1 =>
    unfold mintsOf
    rw [List.map_append, List.mem_append, List.map_singleton, List.mem_singleton]
  case h_2 prev found =>
    obtain ⟨member, isPrev⟩ := find_mint found
    have known : row.mint ∈ mintsOf byMint := List.mem_map.mpr ⟨prev, member, isPrev⟩
    have same : mint ∈ mintsOf byMint ∨ mint = row.mint ↔ mint ∈ mintsOf byMint :=
      or_iff_left_of_imp fun isRow => isRow ▸ known
    rw [same]
    split_ifs
    · rw [mintsOf_replaced]
    · rfl

theorem nodup_mintsOf_mergeRow (nodup : (mintsOf byMint).Nodup) :
    (mintsOf (mergeRow byMint row)).Nodup := by
  unfold mergeRow
  split
  case h_1 isNew =>
    unfold mintsOf
    rw [List.map_append, List.map_singleton, List.nodup_append]
    refine ⟨nodup, List.nodup_singleton _, fun other isMint last isRow same => ?_⟩
    obtain ⟨held, member, isHeld⟩ := List.mem_map.mp isMint
    rw [List.mem_singleton.mp isRow, ← isHeld] at same
    exact absurd (decide_eq_true same) (List.find?_eq_none.mp isNew held member)
  case h_2 =>
    split_ifs
    · rw [mintsOf_replaced]
      exact nodup
    · exact nodup

/-- The map holds each mint of the rows once, with the largest of its amounts. -/
structure Merged (rows byMint : List SolanaHolding) : Prop where
  nodup : (mintsOf byMint).Nodup
  mints : ∀ mint, mint ∈ mintsOf byMint ↔ mint ∈ mintsOf rows
  amounts : ∀ mint, amountOf mint byMint =
    highWater 0 ((rows.filter (·.mint = mint)).map SolanaHolding.amount).reverse

theorem Merged.concat (merged : Merged rows byMint) (nonneg : 0 ≤ row.amount) :
    Merged (rows ++ [row]) (mergeRow byMint row) where
  nodup := nodup_mintsOf_mergeRow merged.nodup
  mints mint := by
    rw [mem_mintsOf_mergeRow, merged.mints]
    unfold mintsOf
    rw [List.map_append, List.mem_append, List.map_singleton, List.mem_singleton]
  amounts mint := by
    rw [amountOf_mergeRow merged.nodup nonneg, merged.amounts, List.filter_append,
      List.filter_singleton, Bool.cond_decide]
    split_ifs
    · rw [List.map_append, List.reverse_append]
      rfl
    · rw [List.append_nil]

theorem merged_foldl (nonneg : ∀ row ∈ rows, 0 ≤ row.amount) :
    Merged rows (rows.foldl mergeRow []) := by
  induction rows using List.reverseRecOn with
  | nil => exact ⟨List.nodup_nil, fun _ => Iff.rfl, fun _ => rfl⟩
  | append_singleton earlier row inductionHypothesis =>
    rw [List.foldl_concat]
    refine (inductionHypothesis fun other member =>
      nonneg other (List.mem_append_left _ member)).concat ?_
    exact nonneg row (List.mem_append_right _ (List.mem_singleton_self row))

theorem mergeAccounts_eq (byMint : List SolanaHolding) (accounts : List (Option ParsedInfo)) :
    mergeAccounts byMint accounts =
      (accounts.filterMap parseTokenAccountInfo).foldl mergeRow byMint := by
  unfold mergeAccounts
  rw [List.foldl_filterMap]
  congr 1
  funext byMint account
  rcases parseTokenAccountInfo account with _ | row <;> rfl

end Merge

/-! ### What the RPC tells of an owner -/

namespace TokenAccount

def row (account : TokenAccount) : SolanaHolding :=
  ⟨account.mint, account.amount, account.decimals⟩

theorem amount_pos {account : TokenAccount} : 0 < account.amount ↔ 0 < account.units := by
  unfold amount
  rw [div_pos_iff_of_pos_right (by positivity), Nat.cast_pos]

theorem parseTokenAccountInfo_parsed (account : TokenAccount) :
    parseTokenAccountInfo account.parsed =
      if 0 < account.units then some account.row else none := by
  have either : (if account.stated then some account.amount else none).or
      (some ((account.units : ℚ) / 10 ^ account.decimals)) = some account.amount := by
    split_ifs <;> rfl
  have named := account.named
  simp only [parseTokenAccountInfo, parsed, Option.bind_eq_bind, Option.bind_some, Option.map_some,
    either, guard, if_pos named, ← amount_pos]
  split_ifs <;> rfl

end TokenAccount

namespace Owner

variable {owner : Owner} {mint : String}

def rows (owner : Owner) : List SolanaHolding :=
  (owner.accounts.filter (0 < ·.units)).map TokenAccount.row

theorem rows_pos {row : SolanaHolding} (member : row ∈ owner.rows) : 0 < row.amount := by
  obtain ⟨account, isAccount, rfl⟩ := List.mem_map.mp member
  exact TokenAccount.amount_pos.mpr (of_decide_eq_true (List.mem_filter.mp isAccount).2)

theorem filterMap_parsed (accounts : List TokenAccount) :
    (accounts.map TokenAccount.parsed).filterMap parseTokenAccountInfo =
      (accounts.filter (0 < ·.units)).map TokenAccount.row := by
  rw [List.filterMap_map]
  induction accounts with
  | nil => rfl
  | cons account rest inductionHypothesis =>
    rw [List.filterMap_cons, Function.comp, TokenAccount.parseTokenAccountInfo_parsed,
      inductionHypothesis, List.filter_cons]
    by_cases some : 0 < account.units
    · rw [if_pos some, if_pos (decide_eq_true some), List.map_cons]
    · rw [if_neg some, if_neg (by simpa using some)]

theorem enumerate_eq {answers : Answers} (succeeds : answers.Succeeds owner) :
    enumerate (enumerate [] answers.legacy) answers.token22 = owner.rows.foldl mergeRow [] := by
  rw [succeeds.legacy, succeeds.token22]
  simp only [enumerate, rows, accounts]
  rw [mergeAccounts_eq, mergeAccounts_eq, filterMap_parsed, filterMap_parsed, ← List.foldl_append,
    ← List.map_append, ← List.filter_append]

def amounts (owner : Owner) (mint : String) : List ℚ :=
  (owner.rows.filter (·.mint = mint)).map SolanaHolding.amount

theorem amounts_pos {amount : ℚ} (member : amount ∈ owner.amounts mint) : 0 < amount := by
  obtain ⟨row, isRow, rfl⟩ := List.mem_map.mp member
  exact rows_pos (List.mem_filter.mp isRow).1

theorem amounts_eq (owner : Owner) (mint : String) :
    owner.amounts mint = (owner.holding mint).map TokenAccount.amount := by
  unfold amounts rows holding
  rw [List.filter_map, List.filter_filter, List.map_map]
  congr 1
  refine List.filter_congr fun account _ => ?_
  rw [Bool.decide_and]
  rfl

theorem held_eq (owner : Owner) (mint : String) :
    owner.held mint =
      (if mint = solNativeMint then owner.sol else 0) + (owner.amounts mint).sum := by
  unfold held
  rw [amounts_eq]
  unfold holding
  congr 1
  induction owner.accounts with
  | nil => rfl
  | cons account rest inductionHypothesis =>
    rw [List.filter_cons, List.filter_cons]
    by_cases isMint : account.mint = mint
    · by_cases some : 0 < account.units
      · rw [if_pos (decide_eq_true isMint), if_pos (decide_eq_true ⟨isMint, some⟩), List.map_cons,
          List.map_cons, List.sum_cons, List.sum_cons, inductionHypothesis]
      · have nothing : account.amount = 0 := by
          unfold TokenAccount.amount
          rw [Nat.eq_zero_of_not_pos some, Nat.cast_zero, zero_div]
        rw [if_pos (decide_eq_true isMint), if_neg (by simp [some]), List.map_cons, List.sum_cons,
          nothing, zero_add, inductionHypothesis]
    · rw [if_neg (by simp [isMint]), if_neg (by simp [isMint]), inductionHypothesis]

theorem sol_nonneg (owner : Owner) : 0 ≤ owner.sol := by
  unfold sol lamportsPerSol
  positivity

theorem held_pos_iff : 0 < owner.held mint ↔
    (mint = solNativeMint ∧ 0 < owner.sol) ∨ mint ∈ mintsOf owner.rows := by
  have nonneg : 0 ≤ (owner.amounts mint).sum :=
    List.sum_nonneg fun amount member => (amounts_pos member).le
  have natively : 0 ≤ if mint = solNativeMint then owner.sol else 0 := by
    split_ifs
    · exact owner.sol_nonneg
    · exact le_rfl
  have inAccount : 0 < (owner.amounts mint).sum ↔ mint ∈ mintsOf owner.rows := by
    constructor
    · intro some
      by_contra absent
      refine absurd some (not_lt.mpr (le_of_eq ?_))
      exact amountOf_eq_zero absent
    · intro isMint
      obtain ⟨row, member, isRow⟩ := List.mem_map.mp isMint
      refine (rows_pos member).trans_le (List.single_le_sum ?_ _ (List.mem_map_of_mem ?_))
      · exact fun amount isAmount => (amounts_pos isAmount).le
      · exact List.mem_filter.mpr ⟨member, decide_eq_true isRow⟩
  rw [held_eq, ← inAccount]
  constructor
  · intro some
    rcases nonneg.eq_or_lt with none | tokens
    · rw [← none, add_zero] at some
      split_ifs at some with isNative
      · exact Or.inl ⟨isNative, some⟩
      · exact absurd some (lt_irrefl _)
    · exact Or.inr tokens
  · rintro (⟨isNative, some⟩ | tokens)
    · rw [if_pos isNative]
      exact add_pos_of_pos_of_nonneg some nonneg
    · exact add_pos_of_nonneg_of_pos natively tokens

theorem mem_mints : mint ∈ owner.mints ↔ mint ∈ mintsOf owner.rows := by
  unfold mints mintsOf rows
  rw [List.mem_dedup, List.map_map]
  rfl

end Owner

/-! ### The list of an owner -/

section Lists

variable {owner : Owner} {byMint : List SolanaHolding} {mint : String}

theorem Merged.length (merged : Merged owner.rows byMint) :
    byMint.length = owner.mints.length := by
  have same : (mintsOf byMint).Perm owner.mints :=
    (List.perm_ext_iff_of_nodup merged.nodup (List.nodup_dedup _)).mpr fun mint =>
      (merged.mints mint).trans Owner.mem_mints.symm
  rw [← same.length_eq, mintsOf, List.length_map]

theorem amountOf_native (owner : Owner) (mint : String) :
    amountOf mint (native owner.sol) = if mint = solNativeMint then owner.sol else 0 := by
  unfold native
  split_ifs with some isNative isNative
  · rw [amountOf_singleton, if_pos isNative.symm]
  · rw [amountOf_singleton, if_neg (Ne.symm isNative)]
  · exact owner.sol_nonneg.antisymm (not_lt.mp some)
  · rfl

/-- The accounts that were read now. -/
theorem Merged.sums_iff (merged : Merged owner.rows byMint) :
    Sums owner (native owner.sol ++ byMint) ↔ OnePerMint owner := by
  have each : ∀ mint, amountOf mint (native owner.sol ++ byMint) = owner.held mint ↔
      (owner.holding mint).length ≤ 1 := by
    intro mint
    rw [amountOf_append, amountOf_native, Owner.held_eq, add_right_inj, merged.amounts]
    have positive : ∀ amount ∈ (owner.amounts mint).reverse, 0 < amount :=
      fun amount member => Owner.amounts_pos (List.mem_reverse.mp member)
    have iff := highWater_zero_eq_sum_iff positive
    rw [List.sum_reverse, List.length_reverse, Owner.amounts_eq, List.length_map,
      ← Owner.amounts_eq] at iff
    exact iff
  refine ⟨fun sums mint => (each mint).mp (sums.amounts mint), fun one => ⟨fun mint =>
    (each mint).mpr (one mint), fun row member => Owner.held_pos_iff.mpr ?_⟩⟩
  rcases List.mem_append.mp member with isNative | isToken
  · unfold native at isNative
    split_ifs at isNative with some
    · rw [List.mem_singleton.mp isNative]
      exact Or.inl ⟨rfl, some⟩
    · cases isNative
  · exact Or.inr ((merged.mints row.mint).mp (List.mem_map_of_mem isToken))

/-- An older list that knows of at least two mints more names one that is no longer held. -/
theorem not_sums_older {cached : LastGood} {mints : List String} (nodup : mints.Nodup)
    (known : mints ⊆ mintsOf cached.holdings) (longer : owner.mints.length + 1 < mints.length) :
    ¬ Sums owner (cached.merged owner.sol) := by
  intro sums
  have kept : mintsOf (cached.withSol owner.sol) = mintsOf cached.holdings := by
    unfold mintsOf LastGood.withSol
    rw [List.map_map]
    refine List.map_congr_left fun held _ => ?_
    simp only [Function.comp]
    split_ifs <;> rfl
  have listed : ∀ mint ∈ mints, ∃ row ∈ cached.merged owner.sol, row.mint = mint := by
    intro mint isMint
    have older := known isMint
    rw [← kept] at older
    obtain ⟨row, member, isRow⟩ := List.mem_map.mp older
    refine ⟨row, ?_, isRow⟩
    unfold LastGood.merged
    split_ifs
    · exact List.mem_cons_of_mem _ member
    · exact member
  have owned : mints ⊆ solNativeMint :: owner.mints := by
    intro mint isMint
    obtain ⟨row, member, rfl⟩ := listed mint isMint
    rcases Owner.held_pos_iff.mp (sums.held row member) with ⟨isNative, _⟩ | isToken
    · exact isNative ▸ List.mem_cons_self
    · exact List.mem_cons_of_mem _ (Owner.mem_mints.mpr isToken)
  exact absurd (nodup.subperm owned).length_le (not_le.mpr longer)

end Lists

/-! ### All calls -/

/-- The entry of the cache counts mints that its list names. -/
def Counted (cache : Option LastGood) : Prop :=
  ∀ cached ∈ cache, ∃ mints : List String, mints.Nodup ∧ mints.length = cached.splCount ∧
    mints ⊆ mintsOf cached.holdings

theorem nodup_enumerate {byMint : List SolanaHolding} (nodup : (mintsOf byMint).Nodup)
    (answer : Except String (List (Option ParsedInfo))) :
    (mintsOf (enumerate byMint answer)).Nodup := by
  rcases answer with failure | accounts
  · exact nodup
  · simp only [enumerate]
    rw [mergeAccounts_eq]
    induction accounts.filterMap parseTokenAccountInfo generalizing byMint with
    | nil => exact nodup
    | cons row rest inductionHypothesis =>
      exact inductionHypothesis (nodup_mintsOf_mergeRow nodup)

theorem counted_list {cache : Option LastGood} (counted : Counted cache) (answers : Answers) :
    Counted (listSolanaHoldingsForOwner answers cache).2 := by
  have written : ∀ sol, Counted (some ⟨native sol ++
      enumerate (enumerate [] answers.legacy) answers.token22,
      (enumerate (enumerate [] answers.legacy) answers.token22).length, answers.now⟩) := by
    intro sol cached isCached
    obtain rfl := Option.some.inj isCached
    have empty : (mintsOf []).Nodup := List.nodup_nil
    refine ⟨mintsOf (enumerate (enumerate [] answers.legacy) answers.token22),
      nodup_enumerate (nodup_enumerate empty _) _, List.length_map _, ?_⟩
    exact List.map_subset _ (List.subset_append_right _ _)
  unfold listSolanaHoldingsForOwner
  split
  · exact counted
  · dsimp only
    split
    · split_ifs
      · exact counted
      · exact counted
      · exact written _
      · exact counted
    · exact written _

theorem counted_cacheAfter (calls : List Answers) : Counted (cacheAfter calls) := by
  unfold cacheAfter
  induction calls using List.reverseRecOn with
  | nil => nofun
  | append_singleton earlier answers inductionHypothesis =>
    rw [List.foldl_concat]
    exact counted_list inductionHypothesis answers

/-- After any calls, a call whose enumerations all succeed lists what the owner holds if and only
if no two accounts of a mint hold something and no older list is served. -/
theorem listSolanaHoldingsForOwner_sums_iff (calls : List Answers) {answers : Answers}
    {owner : Owner} (succeeds : answers.Succeeds owner) :
    ∃ holdings, (listSolanaHoldingsForOwner answers (cacheAfter calls)).1 = .ok holdings ∧
      (Sums owner holdings ↔
        OnePerMint owner ∧ ¬ ServesOlder owner answers.now (cacheAfter calls)) := by
  have merged : Merged owner.rows (owner.rows.foldl mergeRow []) :=
    merged_foldl fun row member => (Owner.rows_pos member).le
  have isOk : answers.legacy.isOk := by
    rw [succeeds.legacy]
    rfl
  have read (notOlder : ¬ ServesOlder owner answers.now (cacheAfter calls)) :
      Sums owner (native owner.sol ++ owner.rows.foldl mergeRow []) ↔
        OnePerMint owner ∧ ¬ ServesOlder owner answers.now (cacheAfter calls) :=
    merged.sums_iff.trans (and_iff_left notOlder).symm
  unfold listSolanaHoldingsForOwner
  rw [succeeds.balance]
  dsimp only
  rw [Owner.enumerate_eq succeeds, merged.length]
  split
  case h_1 _ cached isFresh =>
    obtain ⟨isCached, fresh⟩ := Option.filter_eq_some_iff.mp isFresh
    obtain ⟨mints, nodup, count, known⟩ := counted_cacheAfter calls cached isCached
    have older : ServesOlder owner answers.now (cacheAfter calls) ↔
        owner.mints.length + 1 < cached.splCount := by
      constructor
      · rintro ⟨other, isOther, _, longer⟩
        rwa [Option.some.inj (isCached.symm.trans isOther)]
      · exact fun longer => ⟨cached, isCached, of_decide_eq_true fresh, longer⟩
    by_cases longer : cached.splCount > owner.mints.length + 1
    · rw [if_pos longer]
      refine ⟨_, rfl, iff_of_false ?_ fun both => both.2 (older.mpr longer)⟩
      exact not_sums_older nodup known (count ▸ longer)
    · have isRead := read fun serves => longer (older.mp serves)
      rw [if_neg longer, if_neg fun failed => failed.1 isOk]
      split_ifs
      · exact ⟨_, rfl, isRead⟩
      · exact ⟨_, rfl, isRead⟩
  case h_2 isFresh =>
    refine ⟨_, rfl, read ?_⟩
    rintro ⟨cached, isCached, fresh, _⟩
    have kept : (cacheAfter calls).filter (fun cached => cached.Fresh answers.now) = some cached :=
      Option.filter_eq_some_iff.mpr ⟨isCached, decide_eq_true fresh⟩
    cases isFresh.symm.trans kept

/-- All enumerations of an owner succeed at once. -/
def answersOf (owner : Owner) : Answers where
  balance := .ok owner.lamports
  balanceAgain := .error "429"
  legacy := .ok (owner.legacy.map TokenAccount.parsed)
  token22 := .ok (owner.token22.map TokenAccount.parsed)
  now := 0

theorem succeeds_answersOf (owner : Owner) : (answersOf owner).Succeeds owner where
  balance := rfl
  legacy := rfl
  token22 := rfl

def oneAccount : Owner where
  lamports := 5000000
  legacy := []
  token22 := [⟨"BONK", 3, 0, false, by decide⟩]

theorem sums_oneAccount : ∃ holdings,
    (listSolanaHoldingsForOwner (answersOf oneAccount) (cacheAfter [])).1 = .ok holdings ∧
      Sums oneAccount holdings := by
  obtain ⟨holdings, listed, iff⟩ :=
    listSolanaHoldingsForOwner_sums_iff [] (succeeds_answersOf oneAccount)
  refine ⟨holdings, listed, iff.mpr ⟨fun mint => List.length_filter_le _ _, ?_⟩⟩
  rintro ⟨cached, isCached, _⟩
  cases isCached

/-- An address with accounts of one mint that hold one and two coins. -/
def twoAccounts : Owner where
  lamports := 0
  legacy := [⟨"BONK", 1, 0, true, by decide⟩, ⟨"BONK", 2, 0, true, by decide⟩]
  token22 := []

/-- Two of the three coins are listed. -/
theorem not_listSolanaHoldingsForOwner_sums :
    (listSolanaHoldingsForOwner (answersOf twoAccounts) (cacheAfter [])).1 =
      .ok [⟨"BONK", 2, 0⟩] ∧ ¬ Sums twoAccounts [⟨"BONK", 2, 0⟩] := by
  refine ⟨by decide +kernel, fun sums => ?_⟩
  have all := sums.amounts "BONK"
  revert all
  decide +kernel

end GdslExchange.Wallet.Solana
