-- The broadcast clock. Samples of the time tables carry the authority on, and a time
-- of day without a date becomes the delay until its occurrence nearest to the current
-- broadcast time.
import Mathlib.Data.List.Induction
import TvStack.Words

open Words

namespace maleicacid.tvinput.tis.AribBroadcastClock

structure SourceSample where
  (tableId mjd millisOfDay receivedNanoTime : Int)

structure AuthoritySample extends SourceSample where
  generation : Int

structure AuthorityUpdate where
  authority : AuthoritySample
  discontinuity : Bool

structure Deadline where
  clockGeneration : Int
  delayMillis : Int

/-! ## The Kotlin functions -/

def CONTINUITY_TOLERANCE_MILLIS : Nat := 2000

def DAY_MILLIS : Int := 86400000

def validSource (sample : SourceSample) : Bool :=
  sample.tableId ∈ [0x70, 0x73] ∧ 0 ≤ sample.mjd ∧ sample.mjd ≤ 0xffff ∧
    0 ≤ sample.millisOfDay ∧ sample.millisOfDay < DAY_MILLIS ∧ 0 ≤ sample.receivedNanoTime

def validAuthority (sample : AuthoritySample) : Bool :=
  validSource sample.toSourceSample ∧ 0 < sample.generation

def absoluteMillis (sample : SourceSample) : Int := sample.mjd * DAY_MILLIS + sample.millisOfDay

def nextGeneration (generation : Int) : Int :=
  if generation = I64_MAX then I64_MAX else generation + 1

/-- The broadcast time that the sample lets expect at a later reading. -/
def broadcastMillis (sample : SourceSample) (nanoTime : Int) : Int :=
  absoluteMillis sample + (nanoTime - sample.receivedNanoTime) / 1000000

def updateAuthority (previous : Option AuthoritySample) (incoming : SourceSample) :
    Option AuthorityUpdate :=
  if ¬ validSource incoming then none
  else
    match previous with
    | none => some ⟨⟨incoming, 1⟩, false⟩
    | some previous =>
      let discontinuity : Bool :=
        if incoming.receivedNanoTime - previous.receivedNanoTime < 0 then true
        else (absoluteMillis incoming -
          broadcastMillis previous.toSourceSample incoming.receivedNanoTime).natAbs >
            CONTINUITY_TOLERANCE_MILLIS
      let generation :=
        if discontinuity then nextGeneration previous.generation else previous.generation
      some ⟨⟨incoming, generation⟩, discontinuity⟩

/-- `minByOrNull { candidate -> abs(candidate - current) }` on two candidates -/
def nearer (current first second : Int) : Int :=
  if (second - current).natAbs < (first - current).natAbs then second else first

def deadlineUntil (statementMillis : Int) (authority : Option AuthoritySample)
    (expectedGeneration : Option Int) (nowNanoTime : Int) : Option Deadline :=
  match authority with
  | none => none
  | some clock =>
    if expectedGeneration.any (· ≠ clock.generation) then none
    else if ¬ validAuthority clock ∨
        ¬ (0 ≤ statementMillis ∧ statementMillis < DAY_MILLIS) then none
    else if nowNanoTime - clock.receivedNanoTime < 0 then none
    else
      let current := broadcastMillis clock.toSourceSample nowNanoTime
      let currentMjd := current / DAY_MILLIS
      let candidate (day : Int) := day * DAY_MILLIS + statementMillis
      let target := nearer current (nearer current (candidate (currentMjd - 1))
        (candidate currentMjd)) (candidate (currentMjd + 1))
      some ⟨clock.generation, max (target - current) 0⟩

/-! ## The law -/

/-- The authority behind samples. -/
def authorityAfter (samples : List SourceSample) : Option AuthoritySample :=
  samples.foldl (fun authority sample => (updateAuthority authority sample).map (·.authority)) none

/-- The occurrence of a time of day that is nearest to a time, over all days, and the earlier one of
two. -/
def Nearest (current millisOfDay target : Int) : Prop :=
  (∃ day, target = day * DAY_MILLIS + millisOfDay) ∧
  ∀ day, (target - current).natAbs < (day * DAY_MILLIS + millisOfDay - current).natAbs ∨
    (target - current).natAbs = (day * DAY_MILLIS + millisOfDay - current).natAbs ∧
      target ≤ day * DAY_MILLIS + millisOfDay

theorem nearest_of_three (current : Int) {millisOfDay : Int} (h : 0 ≤ millisOfDay)
    (hday : millisOfDay < DAY_MILLIS) :
    Nearest current millisOfDay (nearer current
      (nearer current ((current / DAY_MILLIS - 1) * DAY_MILLIS + millisOfDay)
        (current / DAY_MILLIS * DAY_MILLIS + millisOfDay))
      ((current / DAY_MILLIS + 1) * DAY_MILLIS + millisOfDay)) := by
  unfold Nearest nearer
  unfold DAY_MILLIS at *
  -- the candidates lie in the day before the current one, in it and in the day behind it
  repeat' split
  all_goals exact ⟨⟨_, rfl⟩, fun day => by omega⟩

theorem Nearest.delay_le {current millisOfDay target : Int}
    (h : Nearest current millisOfDay target) : max (target - current) 0 ≤ 12 * 60 * 60 * 1000 := by
  obtain ⟨-, hleast⟩ := h
  unfold DAY_MILLIS at hleast
  have hbefore := hleast ((current - millisOfDay) / 86400000)
  have hbehind := hleast ((current - millisOfDay) / 86400000 + 1)
  omega

theorem authorityAfter_snoc (samples : List SourceSample) (sample : SourceSample) :
    authorityAfter (samples ++ [sample]) =
      (updateAuthority (authorityAfter samples) sample).map (·.authority) := by
  rw [authorityAfter, List.foldl_append]
  rfl

/-- There are no more generations than samples. -/
theorem generation_le {samples : List SourceSample} {authority : AuthoritySample}
    (h : authorityAfter samples = some authority) : authority.generation ≤ samples.length := by
  induction samples using List.reverseRecOn generalizing authority with
  | nil => cases h
  | append_singleton samples sample ih =>
    rw [authorityAfter_snoc, Option.map_eq_some_iff] at h
    obtain ⟨update, hupdate, rfl⟩ := h
    rw [List.length_append, List.length_singleton]
    unfold updateAuthority nextGeneration at hupdate
    split at hupdate
    · cases hupdate
    split at hupdate
    · cases hupdate
      dsimp only
      omega
    · rename_i previous hprevious
      have hle := ih hprevious
      cases hupdate
      dsimp only
      repeat' split
      all_goals omega

/-- A statement time is the delay until its nearest occurrence, at most half a day ahead. Along
valid samples the generation never goes down, and goes up exactly where the receive time goes back
or the drift against the expected time is beyond the tolerance. -/
theorem deadlines_pick_the_nearest_day :
    (∀ clock statementMillis expectedGeneration nowNanoTime,
      validAuthority clock = true → 0 ≤ statementMillis ∧ statementMillis < DAY_MILLIS →
      clock.receivedNanoTime ≤ nowNanoTime →
      expectedGeneration = none ∨ expectedGeneration = some clock.generation →
      let current := broadcastMillis clock.toSourceSample nowNanoTime
      ∃ target, Nearest current statementMillis target ∧
        deadlineUntil statementMillis (some clock) expectedGeneration nowNanoTime =
          some ⟨clock.generation, max (target - current) 0⟩ ∧
        max (target - current) 0 ≤ 12 * 60 * 60 * 1000) ∧
    ∀ samples sample previous, (samples.length : Int) < I64_MAX →
      authorityAfter samples = some previous → validSource sample = true →
      ∃ next, authorityAfter (samples ++ [sample]) = some next ∧
        previous.generation ≤ next.generation ∧
        (previous.generation < next.generation ↔
          sample.receivedNanoTime < previous.receivedNanoTime ∨
          (absoluteMillis sample -
            broadcastMillis previous.toSourceSample sample.receivedNanoTime).natAbs > 2000) := by
  constructor
  · intro clock statementMillis expectedGeneration nowNanoTime hvalid hday hnow hgeneration current
    have hnearest := nearest_of_three current hday.1 hday.2
    refine ⟨_, hnearest, ?_, hnearest.delay_le⟩
    have hexpected : ¬ expectedGeneration.any (· ≠ clock.generation) = true := by
      rcases hgeneration with rfl | rfl <;> simp
    rw [deadlineUntil, if_neg hexpected, if_neg (by simp [hvalid, hday]), if_neg (by omega)]
  · intro samples sample previous hlength hprevious hvalid
    have hle := generation_le hprevious
    rw [authorityAfter_snoc, hprevious, updateAuthority, if_neg (not_not_intro hvalid)]
    refine ⟨_, rfl, ?_⟩
    have hnext : nextGeneration previous.generation = previous.generation + 1 := if_neg (by omega)
    have htolerance : CONTINUITY_TOLERANCE_MILLIS = 2000 := rfl
    dsimp only
    split
    · rw [if_pos rfl]
      omega
    · simp only [decide_eq_true_eq]
      split <;> omega

/-- 23:00 on some day. -/
def lateEvening : AuthoritySample := ⟨⟨0x70, 60000, 82800000, 0⟩, 1⟩

/-- At 23:00 the nearest 01:00 is two hours ahead, on the next day. A sample of 22:00 a nanosecond
later starts a new generation. -/
theorem one_in_the_morning_is_tomorrow :
    (∃ target, Nearest (broadcastMillis lateEvening.toSourceSample 0) 3600000 target ∧
      deadlineUntil 3600000 (some lateEvening) (some 1) 0 = some ⟨1, 7200000⟩ ∧
      target = 60001 * DAY_MILLIS + 3600000) ∧
    ∃ next, authorityAfter [lateEvening.toSourceSample, ⟨0x70, 60000, 79200000, 1⟩] = some next ∧
      1 < next.generation := by
  constructor
  · obtain ⟨target, hnearest, hdeadline, -⟩ := deadlines_pick_the_nearest_day.1 lateEvening 3600000
      (some 1) 0 rfl (by decide) (by decide) (.inr rfl)
    have hcomputed : deadlineUntil 3600000 (some lateEvening) (some 1) 0 = some ⟨1, 7200000⟩ := rfl
    refine ⟨target, hnearest, hcomputed, ?_⟩
    have hdelay : (7200000 : Int) = max (target - (60000 * 86400000 + 82800000)) 0 :=
      congrArg Deadline.delayMillis (Option.some.inj hdeadline)
    unfold DAY_MILLIS
    omega
  · obtain ⟨next, hnext, -, hup⟩ := deadlines_pick_the_nearest_day.2 [lateEvening.toSourceSample]
      ⟨0x70, 60000, 79200000, 1⟩ lateEvening (by decide) rfl rfl
    exact ⟨next, hnext, hup.mpr (.inr (by decide))⟩

end maleicacid.tvinput.tis.AribBroadcastClock
