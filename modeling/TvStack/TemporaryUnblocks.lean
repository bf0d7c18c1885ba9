-- The temporary unblocks of a session. A grant has a deadline on the wall clock and one
-- on the elapsed clock. Whatever the clocks show, an unblock that is found was granted
-- for the program that is still on, and every end it was given since lies ahead.
import Mathlib.Data.List.Induction
import TvStack.Maps
import TvStack.Words

open Words

namespace maleicacid.tvinput.tis

structure Expiry where
  utcMillis : Int
  elapsedMillis : Int

structure TemporaryContentUnblocks where
  programIdentity : Option String := none
  grants : FinMap String Expiry := {}

/-- `Math.addExact`, `Math.subtractExact` -/
def exact (n : Int) : Option Int := if -2 ^ 63 ≤ n ∧ n ≤ I64_MAX then some n else none

/-- The deadline on the elapsed clock for an end on the wall clock. -/
def elapsedDeadline (endTimeMillis nowUtcMillis nowElapsedMillis : Int) : Option Int := do
  exact (nowElapsedMillis + (← exact (endTimeMillis - nowUtcMillis)))

namespace TemporaryContentUnblocks

/-! ## The Kotlin functions -/

variable (s : TemporaryContentUnblocks) (key : String)
  (endTimeMillis nowUtcMillis nowElapsedMillis : Int)

def updateProgram (identity : Option String) : TemporaryContentUnblocks where
  programIdentity := identity
  grants := if s.programIdentity ≠ identity then {} else s.grants

def expired (expiry : Expiry) : Bool :=
  nowElapsedMillis < 0 ∨ expiry.utcMillis ≤ nowUtcMillis ∨ expiry.elapsedMillis ≤ nowElapsedMillis

def expire : TemporaryContentUnblocks :=
  { s with grants := s.grants.retain fun key =>
      !(s.grants.get key).any (expired nowUtcMillis nowElapsedMillis) }

def grant : TemporaryContentUnblocks × Bool :=
  let s := s.expire nowUtcMillis nowElapsedMillis
  if s.programIdentity = none ∨ nowElapsedMillis < 0 ∨ endTimeMillis ≤ nowUtcMillis then (s, false)
  else
    match elapsedDeadline endTimeMillis nowUtcMillis nowElapsedMillis with
    | none => (s, false)
    | some deadline => ({ s with grants := s.grants.or_insert key ⟨endTimeMillis, deadline⟩ }, true)

def contains : TemporaryContentUnblocks × Bool :=
  let s := s.expire nowUtcMillis nowElapsedMillis
  (s, (s.grants.get key).isSome)

def restrictEnd : TemporaryContentUnblocks :=
  let s := s.expire nowUtcMillis nowElapsedMillis
  if endTimeMillis ≤ nowUtcMillis then { s with grants := {} }
  else
    match elapsedDeadline endTimeMillis nowUtcMillis nowElapsedMillis with
    | none => { s with grants := {} }
    | some deadline =>
      { s with grants := s.grants.mapValues fun expiry =>
          ⟨min expiry.utcMillis endTimeMillis, min expiry.elapsedMillis deadline⟩ }

/-! ## The calls -/

inductive Call
  | updateProgram (identity : Option String)
  | grant (key : String) (endTimeMillis nowUtcMillis nowElapsedMillis : Int)
  | restrictEnd (endTimeMillis nowUtcMillis nowElapsedMillis : Int)
  | contains (key : String) (nowUtcMillis nowElapsedMillis : Int)
  | expire (nowUtcMillis nowElapsedMillis : Int)
  | clear

def call : Call → TemporaryContentUnblocks
  | .updateProgram identity => s.updateProgram identity
  | .grant key t u e => (s.grant key t u e).1
  | .restrictEnd t u e => s.restrictEnd t u e
  | .contains key u e => (s.contains key u e).1
  | .expire u e => s.expire u e
  | .clear => {}

def after (calls : List Call) : TemporaryContentUnblocks := calls.foldl call {}

/-! ## The law -/

variable {s : TemporaryContentUnblocks} {key : String} {u e : Int} {calls : List Call}

/-- The call leaves the program, and every end that it sets lies ahead of the clocks. -/
def Spares (identity : Option String) (u e : Int) : Call → Prop
  | .updateProgram identity' => identity' = identity
  | .restrictEnd t' u' e' => u < t' ∧ e < e' + (t' - u')
  | .clear => False
  | _ => True

/-- A grant of the key that succeeded, with its deadlines ahead of the clocks, and only calls
behind it that spare it. -/
def Justified (calls : List Call) (key : String) (u e : Int) : Prop :=
  ∃ before t u₀ e₀ later, calls = before ++ .grant key t u₀ e₀ :: later ∧
    ((after before).grant key t u₀ e₀).2 = true ∧ u < t ∧ e < e₀ + (t - u₀) ∧
    (after calls).programIdentity = (after before).programIdentity ∧
    ∀ call ∈ later, Spares (after before).programIdentity u e call

theorem elapsedDeadline_eq {t d : Int} (h : elapsedDeadline t u e = some d) : d = e + (t - u) := by
  unfold elapsedDeadline exact at h
  split at h
  · rw [Option.bind_eq_bind, Option.bind_some] at h
    split at h
    · cases h
      rfl
    · cases h
  · cases h

theorem get_expire {expiry : Expiry} : (s.expire u e).grants.get key = some expiry ↔
    s.grants.get key = some expiry ∧ expired u e expiry = false := by
  rw [expire, FinMap.get_retain]
  cases hget : s.grants.get key with
  | none => simp
  | some held =>
    rw [Option.any_some, Option.some.injEq]
    cases hexpired : expired u e held with
    | true =>
      refine ⟨nofun, ?_⟩
      rintro ⟨rfl, hlive⟩
      cases hexpired.symm.trans hlive
    | false =>
      rw [Bool.not_false, if_pos rfl, Option.some.injEq]
      refine ⟨?_, And.left⟩
      rintro rfl
      exact ⟨rfl, hexpired⟩

theorem programIdentity_call {call : Call} (h : Spares s.programIdentity u e call) :
    (s.call call).programIdentity = s.programIdentity := by
  cases call with
  | updateProgram identity => exact h
  | grant | restrictEnd =>
    dsimp only [TemporaryContentUnblocks.call, grant, restrictEnd]
    repeat' split
    all_goals rfl
  | contains | expire => rfl
  | clear => exact h.elim

theorem after_snoc (calls : List Call) (call : Call) :
    after (calls ++ [call]) = (after calls).call call := by
  rw [after, List.foldl_append]
  rfl

theorem Justified.snoc {call : Call} (h : Justified calls key u e)
    (hspares : Spares (after calls).programIdentity u e call) :
    Justified (calls ++ [call]) key u e := by
  have hsame := programIdentity_call hspares
  obtain ⟨before, t, u₀, e₀, later, heq, hgrant, hu, he, hidentity, hlater⟩ := h
  refine ⟨before, t, u₀, e₀, later ++ [call], by rw [heq, List.append_assoc]; rfl, hgrant, hu, he,
    ?_, ?_⟩
  · rw [after_snoc, hsame, hidentity]
  · intro c hc
    rcases List.mem_append.mp hc with hc | hc
    · exact hlater c hc
    · rw [List.mem_singleton.mp hc, ← hidentity]
      exact hspares

/-- Every unblock that is held is justified up to its deadlines. -/
def AllJustified (calls : List Call) : Prop :=
  ∀ {key expiry}, (after calls).grants.get key = some expiry →
    ∀ {u e}, u < expiry.utcMillis → e < expiry.elapsedMillis → Justified calls key u e

theorem AllJustified.snoc (h : AllJustified calls) (call : Call) :
    AllJustified (calls ++ [call]) := by
  intro key expiry hget u e hu he
  rw [after_snoc] at hget
  cases call with
  | updateProgram identity =>
    dsimp only [TemporaryContentUnblocks.call, updateProgram] at hget
    split at hget
    · cases hget
    · rename_i hsame
      exact (h hget hu he).snoc (not_not.mp hsame).symm
  | grant key' t u' e' =>
    have hheld (hget : ((after calls).expire u' e').grants.get key = some expiry) :
        Justified (calls ++ [.grant key' t u' e']) key u e :=
      (h (get_expire.mp hget).1 hu he).snoc trivial
    dsimp only [TemporaryContentUnblocks.call, grant] at hget
    split at hget
    · exact hheld hget
    rename_i hopen
    split at hget
    · exact hheld hget
    rename_i d hdeadline
    rw [FinMap.get_or_insert] at hget
    split at hget
    swap
    · exact hheld hget
    rename_i hkey
    subst hkey
    cases hold : ((after calls).expire u' e').grants.get key with
    | some old =>
      rw [hold] at hget
      exact hheld (hold.trans hget)
    | none =>
      rw [hold, Option.getD_none] at hget
      cases hget
      refine ⟨calls, t, u', e', [], rfl, ?_, hu, by rwa [← elapsedDeadline_eq hdeadline], ?_,
        by simp⟩
      · rw [grant, if_neg hopen, hdeadline]
      · rw [after_snoc]
        exact programIdentity_call (u := u) (e := e) trivial
  | restrictEnd t u' e' =>
    dsimp only [TemporaryContentUnblocks.call, restrictEnd] at hget
    split at hget
    · cases hget
    split at hget
    · cases hget
    rename_i d hdeadline
    rw [FinMap.get_mapValues] at hget
    obtain ⟨held, hheld, rfl⟩ := Option.map_eq_some_iff.mp hget
    have hd := elapsedDeadline_eq hdeadline
    dsimp only at hu he
    refine (h (get_expire.mp hheld).1 (by omega) (by omega)).snoc ⟨by omega, by omega⟩
  | contains | expire => exact (h (get_expire.mp hget).1 hu he).snoc trivial
  | clear => cases hget

theorem all_justified (calls : List Call) : AllJustified calls := by
  induction calls using List.reverseRecOn with
  | nil => exact fun hget => by cases hget
  | append_singleton calls call ih => exact ih.snoc call

/-- Over every order of calls and whatever the two clocks show: an unblock that is found is
justified by a grant, and a grant of a key that is still held at its readings leaves both deadlines
as they are. -/
theorem unblocks_never_outlive_their_grant (calls : List Call) (key : String) (u e : Int) :
    (((after calls).contains key u e).2 = true → Justified calls key u e) ∧
    ∀ held, (after calls).grants.get key = some held → expired u e held = false →
      ∀ t, ((after calls).grant key t u e).1.grants.get key = some held := by
  constructor
  · intro hfound
    obtain ⟨expiry, hget⟩ := Option.isSome_iff_exists.mp hfound
    obtain ⟨hget, hlive⟩ := get_expire.mp hget
    have hahead : u < expiry.utcMillis ∧ e < expiry.elapsedMillis := by
      simp [expired] at hlive
      exact hlive.2
    exact all_justified calls hget hahead.1 hahead.2
  · intro held hget hlive t
    have hkept := get_expire.mpr ⟨hget, hlive⟩
    dsimp only [grant]
    split
    · exact hkept
    split
    · exact hkept
    · rw [FinMap.get_or_insert, if_pos rfl, hkept]
      rfl

/-- An unblock until 5000 that is found at 2000; a grant until 9000 then leaves its deadlines. -/
theorem the_first_grant_stands :
    let calls := [.updateProgram (some "news"), .grant "rating" 5000 1000 10]
    Justified calls "rating" 2000 20 ∧
    ((after calls).grant "rating" 9000 2000 20).1.grants.get "rating" = some ⟨5000, 4010⟩ :=
  ⟨(unblocks_never_outlive_their_grant _ _ _ _).1 rfl,
    (unblocks_never_outlive_their_grant _ _ _ _).2 ⟨5000, 4010⟩ rfl rfl 9000⟩

end TemporaryContentUnblocks

end maleicacid.tvinput.tis
