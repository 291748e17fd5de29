/-
# R3v3rs3.Platform.Pitr -- point-in-time recovery

`restorePitr` picks a base backup, keeps the archived segments whose interval meets the time from
the base to the target, and replays them in the order of their start times.  A segment is a dump
of the whole database, taken at its end time; its start time is the end of the previous one.  So
the right segments for a target are those captured at or before it, and the interval that
contains the target belongs to a capture taken after it.

`pitr_exact_iff` says for which targets the recovery is exact: when no interval contains the
target, and segments that share a start time were read from the directory in the order of their
capture.
-/
import Mathlib.Data.List.Chain
import R3v3rs3.Api.Error
import R3v3rs3.Theory.StableSort

namespace R3v3rs3.Platform.Pitr
open Api
open Theory.StableSort
set_option autoImplicit false

/-- The manifest of a backup.  `createdAt` is an `i64` that `unix_ms` wrote, so the casts of the
source keep it. -/
structure BackupEntry where
  id : String
  app : ShortId
  name : String
  engine : String
  size : Nat
  sha256 : String
  createdAt : Nat
  deriving DecidableEq

structure WalSegment where
  id : String
  app : ShortId
  filename : String
  size : Nat
  sha256 : String
  startTime : Nat
  endTime : Nat
  createdAt : Nat
  deriving DecidableEq

/-- `list_wal_segments`: the manifests in the order the directory is read, sorted. -/
def listWalSegments (files : List WalSegment) : List WalSegment :=
  sortByKey WalSegment.startTime files

/-- The start time that `archive_wal` gives to a capture. -/
def archiveStart (files : List WalSegment) (now : Nat) : Nat :=
  ((listWalSegments files).getLast?.map WalSegment.endTime).getD (now - 300000)

/-- `archive_wal`, once the dump of the database is taken: `id`, `filename`, `size` and `sha256`
are what the capture gave. -/
def archiveWal (files : List WalSegment) (now : Nat) (id : String) (app : ShortId)
    (filename : String) (size : Nat) (sha256 : String) : WalSegment where
  id := id
  app := app
  filename := filename
  size := size
  sha256 := sha256
  startTime := archiveStart files now
  endTime := now
  createdAt := now

def earliest : List BackupEntry → Nat
  | [] => 0
  | [backup] => backup.createdAt
  | backup :: rest => min backup.createdAt (earliest rest)

def findBaseBackup (backups : List BackupEntry) (dbName : String) (targetTime : Nat) :
    Except Error BackupEntry :=
  if backups = [] then .error (.other ("no base backups found for database " ++ dbName))
  else if targetTime < earliest backups then
    .error (.pitrTargetOutOfRange ("target time " ++ toString targetTime ++
      " is earlier than earliest backup " ++ toString (earliest backups)))
  else
    match maxByKey BackupEntry.createdAt
        (backups.filter (fun backup => backup.createdAt ≤ targetTime)) with
    | some base => .ok base
    | none => .error (.pitrTargetOutOfRange "no base backup found before target time")

def filterWalSegments (segments : List WalSegment) (baseTime targetTime : Nat) :
    List WalSegment :=
  segments.filter (fun segment => segment.startTime ≤ targetTime && segment.endTime ≥ baseTime)

/-- The segments that `replay_wal_to_target` restores, in its order. -/
def replayWalToTarget (segments : List WalSegment) (targetTime : Nat) : List WalSegment :=
  segments.filter (fun segment => segment.startTime ≤ targetTime)

/-- What a recovery does to the target database: the base is restored, then the segments. -/
structure Recovery where
  base : BackupEntry
  applied : List WalSegment
  walSegmentsReplayed : Nat
  deriving DecidableEq

/-- `restore_pitr`, every file read and every restore succeeding. -/
def restorePitr (backups : List BackupEntry) (files : List WalSegment) (dbName : String)
    (targetTime : Nat) : Except Error Recovery :=
  match findBaseBackup backups dbName targetTime with
  | .error err => .error err
  | .ok base =>
    let replayed := filterWalSegments (listWalSegments files) base.createdAt targetTime
    .ok { base := base
          applied := if replayed = [] then [] else replayWalToTarget replayed targetTime
          walSegmentsReplayed := replayed.length }

/-- The time of the capture whose contents the database ends with. -/
def Recovery.finalTime (recovery : Recovery) : Nat :=
  (recovery.applied.getLast?.map WalSegment.endTime).getD recovery.base.createdAt

/-! ## The captures of a database -/

/-- The captures of a database in the order they were taken: each starts where the previous one
ended. -/
structure Captures where
  segments : List WalSegment
  contiguous : segments.IsChain (fun previous next => next.startTime = previous.endTime)
  ordered : ∀ segment ∈ segments, segment.startTime ≤ segment.endTime
  distinct : segments.Nodup

theorem pairwise_of_contiguous {segments : List WalSegment}
    (contiguous : segments.IsChain (fun previous next => next.startTime = previous.endTime))
    (ordered : ∀ segment ∈ segments, segment.startTime ≤ segment.endTime) :
    segments.Pairwise (fun earlier later => earlier.endTime ≤ later.startTime) := by
  induction segments with
  | nil => exact List.Pairwise.nil
  | cons first rest ih =>
    cases rest with
    | nil => exact List.pairwise_singleton _ _
    | cons second rest =>
      obtain ⟨meets, restContiguous⟩ := List.isChain_cons_cons.mp contiguous
      have restPairwise := ih restContiguous (fun s member => ordered s (by simp [member]))
      have secondOrdered := ordered second (by simp)
      refine List.pairwise_cons.mpr ⟨?_, restPairwise⟩
      intro later member
      rcases List.mem_cons.mp member with rfl | further
      · omega
      · have := (List.pairwise_cons.mp restPairwise).1 later further
        omega

namespace Captures

theorem apart (captures : Captures) :
    captures.segments.Pairwise (fun earlier later => earlier.endTime ≤ later.startTime) :=
  pairwise_of_contiguous captures.contiguous captures.ordered

theorem starts_sorted (captures : Captures) :
    captures.segments.Pairwise (fun a b => a.startTime ≤ b.startTime) :=
  captures.apart.imp_of_mem (fun memA _ before => by
    have := captures.ordered _ memA
    omega)

end Captures

variable {files : List WalSegment} {captures : Captures} {now : Nat}

section Lasting

variable (perm : files.Perm captures.segments)
  (lasting : ∀ segment ∈ captures.segments, segment.startTime < segment.endTime)
include perm lasting

/-- Captures that each took some time are listed in the order they were taken. -/
theorem listWalSegments_eq : listWalSegments files = captures.segments := by
  refine eq_of_sorted_of_ties ((sortByKey_perm _ files).trans perm) captures.distinct
    (sortByKey_sorted _ files) captures.starts_sorted (fun a b sub tie => ?_)
  have before := List.pairwise_iff_forall_sublist.mp captures.apart sub
  have long := lasting a (sub.subset (by simp))
  omega

/-- `archive_wal` adds a capture to the history, as long as the clock does not go back and the
capture is a new one. -/
theorem archiveWal_extends
    (forward : ∀ segment ∈ captures.segments, segment.endTime ≤ now) {next : WalSegment}
    {id filename sha256 : String} {app : ShortId} {size : Nat}
    (taken : next = archiveWal files now id app filename size sha256)
    (new : next ∉ captures.segments) :
    ∃ longer : Captures, longer.segments = captures.segments ++ [next] := by
  have starts : next.startTime =
      (captures.segments.getLast?.map WalSegment.endTime).getD (now - 300000) := by
    rw [taken, archiveWal, archiveStart, listWalSegments_eq perm lasting]
  have ends : next.endTime = now := by rw [taken, archiveWal]
  refine ⟨⟨captures.segments ++ [next], ?_, ?_, ?_⟩, rfl⟩
  · refine List.isChain_append.mpr ⟨captures.contiguous, by simp, ?_⟩
    intro last isLast first isFirst
    simp only [List.head?_cons, Option.mem_def, Option.some.injEq] at isFirst
    subst isFirst
    rw [starts, Option.mem_def.mp isLast, Option.map_some, Option.getD_some]
  · intro segment member
    rcases List.mem_append.mp member with old | same
    · exact captures.ordered segment old
    · obtain rfl := List.mem_singleton.mp same
      rw [starts, ends]
      cases last : captures.segments.getLast? with
      | none =>
        rw [Option.map_none, Option.getD_none]
        exact Nat.sub_le now 300000
      | some previous =>
        exact forward previous (List.mem_of_getLast? last)
  · refine List.nodup_append'.mpr ⟨captures.distinct, by simp, ?_⟩
    intro segment old same
    rw [List.mem_singleton.mp same] at old
    exact new old

end Lasting

/-! ## Exact recovery -/

/-- Whether a segment was captured from the base to the target. -/
def captured (baseTime targetTime : Nat) (segment : WalSegment) : Bool :=
  baseTime ≤ segment.endTime && segment.endTime ≤ targetTime

/-- What a recovery to `targetTime` promises. -/
structure Exact (backups : List BackupEntry) (captures : Captures) (targetTime : Nat)
    (recovery : Recovery) : Prop where
  base_mem : recovery.base ∈ backups
  base_le : recovery.base.createdAt ≤ targetTime
  base_greatest : ∀ backup ∈ backups, backup.createdAt ≤ targetTime →
    backup.createdAt ≤ recovery.base.createdAt
  /-- The segments captured from the base to the target, in the order of their capture. -/
  applied_eq : recovery.applied =
    captures.segments.filter (captured recovery.base.createdAt targetTime)
  /-- Nothing that was captured after the target. -/
  none_after : ∀ segment ∈ recovery.applied, segment.endTime ≤ targetTime
  /-- The database ends with the latest capture at or before the target. -/
  final_le : recovery.finalTime ≤ targetTime
  final_latest : ∀ segment ∈ captures.segments, segment.endTime ≤ targetTime →
    segment.endTime ≤ recovery.finalTime
  final_base : ∀ backup ∈ backups, backup.createdAt ≤ targetTime →
    backup.createdAt ≤ recovery.finalTime

theorem earliest_le {backups : List BackupEntry} {backup : BackupEntry}
    (member : backup ∈ backups) : earliest backups ≤ backup.createdAt := by
  induction backups with
  | nil => cases member
  | cons first rest ih =>
    cases rest with
    | nil =>
      obtain rfl := List.mem_singleton.mp member
      exact Nat.le_refl _
    | cons =>
      rcases List.mem_cons.mp member with rfl | later
      · exact Nat.min_le_left _ _
      · exact Nat.le_trans (Nat.min_le_right _ _) (ih later)

/-- From a target at or after some backup, the base is the last backup before it. -/
theorem findBaseBackup_spec {backups : List BackupEntry} {targetTime : Nat} (dbName : String)
    (reachable : ∃ backup ∈ backups, backup.createdAt ≤ targetTime) :
    ∃ base, findBaseBackup backups dbName targetTime = .ok base ∧ base ∈ backups ∧
      base.createdAt ≤ targetTime ∧ ∀ backup ∈ backups, backup.createdAt ≤ targetTime →
        backup.createdAt ≤ base.createdAt := by
  obtain ⟨backup, member, early⟩ := reachable
  have nonempty : backups ≠ [] := List.ne_nil_of_mem member
  have inRange : ¬ targetTime < earliest backups := by
    have := earliest_le member
    omega
  rcases maxByKey_spec BackupEntry.createdAt
    (backups.filter (fun backup => backup.createdAt ≤ targetTime)) with
    ⟨-, empty⟩ | ⟨base, found, baseMember, greatest⟩
  · have kept : backup ∈ backups.filter (fun backup => backup.createdAt ≤ targetTime) :=
      List.mem_filter.mpr ⟨member, by simpa using early⟩
    rw [empty] at kept
    cases kept
  · obtain ⟨inBackups, le⟩ := List.mem_filter.mp baseMember
    refine ⟨base, by simp [findBaseBackup, nonempty, inRange, found], inBackups,
      by simpa using le, ?_⟩
    intro other otherMember otherEarly
    exact greatest other (List.mem_filter.mpr ⟨otherMember, by simpa using otherEarly⟩)

/-- The segments whose interval meets the time from the base to the target. -/
def overlaps (baseTime targetTime : Nat) (segment : WalSegment) : Bool :=
  segment.startTime ≤ targetTime && segment.endTime ≥ baseTime

theorem replayed_eq (files : List WalSegment) (baseTime targetTime : Nat) :
    (if filterWalSegments (listWalSegments files) baseTime targetTime = [] then []
      else replayWalToTarget (filterWalSegments (listWalSegments files) baseTime targetTime)
        targetTime) =
      (listWalSegments files).filter (overlaps baseTime targetTime) := by
  have twice : replayWalToTarget
      (filterWalSegments (listWalSegments files) baseTime targetTime) targetTime =
      (listWalSegments files).filter (overlaps baseTime targetTime) := by
    rw [replayWalToTarget, filterWalSegments, List.filter_filter]
    refine List.filter_congr (fun segment _ => ?_)
    simp only [overlaps]
    cases decide (segment.startTime ≤ targetTime) <;> simp
  split
  · rename_i empty
    exact empty.symm
  · exact twice

/-- Whether a target falls into the interval of a segment. -/
def inside (targetTime : Nat) (segment : WalSegment) : Bool :=
  segment.startTime ≤ targetTime && targetTime < segment.endTime

/-- The capture that the database ends with is the latest one in time. -/
theorem final_spec {targetTime : Nat} (recovery : Recovery)
    (baseLe : recovery.base.createdAt ≤ targetTime)
    (applied : recovery.applied =
      captures.segments.filter (captured recovery.base.createdAt targetTime)) :
    recovery.base.createdAt ≤ recovery.finalTime ∧ recovery.finalTime ≤ targetTime ∧
      ∀ segment ∈ captures.segments, segment.endTime ≤ targetTime →
        segment.endTime ≤ recovery.finalTime := by
  have ends : captures.segments.Pairwise (fun a b => a.endTime ≤ b.endTime) :=
    captures.apart.imp_of_mem fun _ memB before => before.trans (captures.ordered _ memB)
  have sorted : recovery.applied.Pairwise (fun a b => a.endTime ≤ b.endTime) :=
    applied ▸ ends.sublist List.filter_sublist
  have inTime : ∀ segment, segment ∈ recovery.applied ↔ segment ∈ captures.segments ∧
      recovery.base.createdAt ≤ segment.endTime ∧ segment.endTime ≤ targetTime := by
    intro segment
    simp [applied, captured]
  rcases List.eq_nil_or_concat recovery.applied with empty | ⟨earlier, last, ending⟩
  · have final : recovery.finalTime = recovery.base.createdAt := by
      simp [Recovery.finalTime, empty]
    refine ⟨by omega, by omega, ?_⟩
    intro segment member early
    have absent : segment ∉ recovery.applied := by simp [empty]
    rw [inTime] at absent
    by_contra late
    exact absent ⟨member, by omega, early⟩
  · have final : recovery.finalTime = last.endTime := by
      simp [Recovery.finalTime, ending]
    have lastInTime := (inTime last).mp (by simp [ending])
    refine ⟨by omega, by omega, ?_⟩
    intro segment member early
    by_cases atBase : recovery.base.createdAt ≤ segment.endTime
    · have inApplied := (inTime segment).mpr ⟨member, atBase, early⟩
      rw [ending, List.concat_eq_append] at inApplied sorted
      rcases List.mem_append.mp inApplied with before | same
      · have := (List.pairwise_append.mp sorted).2.2 segment before last (by simp)
        omega
      · obtain rfl := List.mem_singleton.mp same
        omega
    · omega

/-- The replayed segments are the captured ones, in order, exactly off the intervals and with
ties in order. -/
theorem replayed_eq_captured_iff {baseTime targetTime : Nat} (perm : files.Perm captures.segments)
    (baseLe : baseTime ≤ targetTime) :
    (listWalSegments files).filter (overlaps baseTime targetTime) =
        captures.segments.filter (captured baseTime targetTime) ↔
      (∀ segment ∈ captures.segments, inside targetTime segment = false) ∧
        ∀ a b, [a, b].Sublist (captures.segments.filter (captured baseTime targetTime)) →
          a.startTime = b.startTime → [a, b].Sublist files := by
  have ties := filter_sortByKey_eq_iff (captured baseTime targetTime) perm captures.distinct
    captures.starts_sorted
  have offIntervals (outside : ∀ segment ∈ captures.segments, inside targetTime segment = false) :
      (listWalSegments files).filter (overlaps baseTime targetTime) =
        (listWalSegments files).filter (captured baseTime targetTime) := by
    refine List.filter_congr fun segment member => ?_
    replace member := perm.subset ((sortByKey_perm _ files).subset member)
    have off := outside segment member
    have le := captures.ordered segment member
    simp only [inside, Bool.and_eq_false_iff, decide_eq_false_iff_not] at off
    rw [Bool.eq_iff_iff]
    simp only [overlaps, captured, Bool.and_eq_true, decide_eq_true_eq]
    omega
  constructor
  · intro same
    have outside : ∀ segment ∈ captures.segments, inside targetTime segment = false := by
      intro segment member
      by_contra around
      simp only [inside, Bool.and_eq_true, decide_eq_true_eq, Bool.not_eq_false] at around
      have overlapping : overlaps baseTime targetTime segment = true := by
        simp only [overlaps, Bool.and_eq_true, decide_eq_true_eq]
        omega
      have listed : segment ∈ listWalSegments files :=
        (sortByKey_perm _ files).symm.subset (perm.symm.subset member)
      have replayed := List.mem_filter.mpr ⟨listed, overlapping⟩
      rw [same] at replayed
      have kept := List.of_mem_filter replayed
      simp only [captured, Bool.and_eq_true, decide_eq_true_eq] at kept
      omega
    rw [offIntervals outside] at same
    exact ⟨outside, ties.mp same⟩
  · rintro ⟨outside, inOrder⟩
    rw [offIntervals outside]
    exact ties.mpr inOrder

/-- The condition for an exact recovery: the target is in no interval, and segments in time that
share a start time were read in the order of their capture. -/
structure Aligned (backups : List BackupEntry) (captures : Captures) (files : List WalSegment)
    (targetTime : Nat) : Prop where
  outside : ∀ segment ∈ captures.segments, inside targetTime segment = false
  ties : ∀ base ∈ backups, base.createdAt ≤ targetTime →
    (∀ backup ∈ backups, backup.createdAt ≤ targetTime → backup.createdAt ≤ base.createdAt) →
    ∀ a b, [a, b].Sublist (captures.segments.filter (captured base.createdAt targetTime)) →
      a.startTime = b.startTime → [a, b].Sublist files

/-- **Point-in-time recovery is exact if and only if the target lies in no interval and ties
were read in the order of capture.** -/
theorem pitr_exact_iff (backups : List BackupEntry) (captures : Captures)
    (files : List WalSegment) (dbName : String) (targetTime : Nat)
    (perm : files.Perm captures.segments)
    (reachable : ∃ backup ∈ backups, backup.createdAt ≤ targetTime) :
    (∃ recovery, restorePitr backups files dbName targetTime = .ok recovery ∧
      Exact backups captures targetTime recovery) ↔
      Aligned backups captures files targetTime := by
  obtain ⟨base, found, member, early, greatest⟩ := findBaseBackup_spec dbName reachable
  have result : restorePitr backups files dbName targetTime = .ok
      ⟨base, (listWalSegments files).filter (overlaps base.createdAt targetTime),
        (filterWalSegments (listWalSegments files) base.createdAt targetTime).length⟩ := by
    simp only [restorePitr, found, replayed_eq]
  have replayed := replayed_eq_captured_iff perm early
  constructor
  · rintro ⟨recovery, returned, exact⟩
    rw [result] at returned
    obtain rfl := Except.ok.inj returned
    obtain ⟨outside, ties⟩ := replayed.mp exact.applied_eq
    refine ⟨outside, fun other otherMember otherEarly otherGreatest => ?_⟩
    have sameTime : other.createdAt = base.createdAt :=
      Nat.le_antisymm (greatest other otherMember otherEarly)
        (otherGreatest base member early)
    rwa [sameTime]
  · intro aligned
    have applied := replayed.mpr ⟨aligned.outside, aligned.ties base member early greatest⟩
    refine ⟨_, result, ?_⟩
    obtain ⟨baseFinal, finalLe, latest⟩ := final_spec ⟨base, _, _⟩ early applied
    exact
      { base_mem := member
        base_le := early
        base_greatest := greatest
        applied_eq := applied
        none_after := by
          intro segment inApplied
          rw [applied] at inApplied
          have kept := List.of_mem_filter inApplied
          simp only [captured, Bool.and_eq_true, decide_eq_true_eq] at kept
          exact kept.2
        final_le := finalLe
        final_latest := latest
        final_base := fun backup backupMember backupEarly =>
          Nat.le_trans (greatest backup backupMember backupEarly) baseFinal }

/-- A backup and one capture after it. -/
def nightly : BackupEntry := ⟨"b1", ShortId.new, "shop", "postgres", 100, "aa", 1000⟩

def morning : WalSegment := ⟨"w1", ShortId.new, "wal-1", 10, "bb", 1000, 1500, 1500⟩

def oneCapture : Captures where
  segments := [morning]
  contiguous := by simp
  ordered := by decide
  distinct := by decide

/-- At the target 1500 the recovery is exact: it ends with the capture taken at 1500. -/
theorem pitr_exact_at_capture :
    ∃ recovery, restorePitr [nightly] [morning] "shop" 1500 = .ok recovery ∧
      Exact [nightly] oneCapture 1500 recovery := by
  refine (pitr_exact_iff [nightly] oneCapture [morning] "shop" 1500 (List.Perm.refl _)
    ⟨nightly, by decide, by decide⟩).mpr ⟨by decide, ?_⟩
  intro base _ _ _ a b sub
  exact absurd (sub.trans List.filter_sublist).length_le (by simp [oneCapture])

/-- A target inside the interval of a capture gets the contents of a later time. -/
theorem pitr_not_exact_inside :
    ¬ ∃ recovery, restorePitr [nightly] [morning] "shop" 1200 = .ok recovery ∧
      Exact [nightly] oneCapture 1200 recovery := by
  rintro ⟨recovery, returned, exact⟩
  have applied : restorePitr [nightly] [morning] "shop" 1200 = .ok ⟨nightly, [morning], 1⟩ := by
    decide
  obtain rfl := Except.ok.inj (applied.symm.trans returned)
  exact absurd (exact.none_after morning (by decide)) (by decide)

/-! ## Recovery where files and commands fail -/

/-- What the database, the file system and the container answer during a recovery. -/
structure Answers where
  listBackups : Except Error (List BackupEntry)
  listWalSegments : Except Error (List WalSegment)
  resolvePitrTarget : BackupEntry → Except Error Unit
  /-- What `replay_wal_to_target` looks up before its loop. -/
  restorePlan : Except Error Unit
  read : WalSegment → Except Error (List UInt8)
  ungzip : List UInt8 → Except Error (List UInt8)
  runRestore : WalSegment → List UInt8 → Except Error Unit

namespace Answers

variable (answers : Answers) (dbName : String) (targetTime : Nat)

/-- Whether `replay_single_segment` restores the segment; it returns nothing. -/
def replaySingleSegment (segment : WalSegment) : Bool :=
  match answers.read segment with
  | .error _ => false
  | .ok compressed =>
    match answers.ungzip compressed with
    | .error _ => false
    | .ok uncompressed => (answers.runRestore segment uncompressed).isOk

/-- The segments that the loop of `replay_wal_to_target` restores. -/
def restored (segments : List WalSegment) : List WalSegment :=
  match answers.restorePlan with
  | .error _ => []
  | .ok () => (replayWalToTarget segments targetTime).filter answers.replaySingleSegment

/-- The base and the segments that a recovery selects. -/
def select : Except Error (BackupEntry × List WalSegment) := do
  let backups ← answers.listBackups
  let base ← findBaseBackup backups dbName targetTime
  let files ← answers.listWalSegments
  answers.resolvePitrTarget base
  return (base, filterWalSegments (Pitr.listWalSegments files) base.createdAt targetTime)

/-- `restore_pitr`: the count is taken before the replay, whose result is dropped. -/
def restorePitr : Except Error Recovery := do
  let (base, replayed) ← answers.select dbName targetTime
  return { base := base
           applied := if replayed = [] then [] else answers.restored targetTime replayed
           walSegmentsReplayed := replayed.length }

/-- An answer without an error tells the truth: every selected segment was restored, and the
number is that of the segments restored. -/
def Truthful : Prop :=
  ∀ recovery, answers.restorePitr dbName targetTime = .ok recovery →
    ∃ selected, answers.select dbName targetTime = .ok (recovery.base, selected) ∧
      recovery.applied = selected ∧ recovery.walSegmentsReplayed = recovery.applied.length

/-- No selected segment fails. -/
def Replays : Prop :=
  ∀ base selected, answers.select dbName targetTime = .ok (base, selected) →
    ∀ segment ∈ selected, answers.restorePlan = .ok () ∧ answers.replaySingleSegment segment

/-- **A recovery tells the truth if and only if no selected segment fails.** -/
theorem restore_truthful_iff :
    answers.Truthful dbName targetTime ↔ answers.Replays dbName targetTime := by
  cases found : answers.select dbName targetTime with
  | error => simp [Truthful, Replays, restorePitr, found, bind, Except.bind]
  | ok selection =>
    obtain ⟨base, selected⟩ := selection
    -- the loop leaves out nothing that was selected
    have whole : replayWalToTarget selected targetTime = selected := by
      refine List.filter_eq_self.mpr (fun segment member => ?_)
      simp only [select, bind, Except.bind] at found
      repeat' split at found
      all_goals cases found
      simp only [filterWalSegments, List.mem_filter, Bool.and_eq_true] at member
      exact member.2.1
    simp only [Truthful, Replays, restorePitr, found, bind, Except.bind, pure, Except.pure,
      restored, whole, Except.ok.injEq, Prod.mk.injEq]
    by_cases none : selected = []
    · simp [none]
    cases answers.restorePlan with
    | error => simp [none, List.exists_mem_of_ne_nil]
    | ok =>
      simp only [none, if_false, true_and]
      constructor
      · rintro truthful _ _ ⟨-, rfl⟩
        obtain ⟨_, ⟨-, rfl⟩, all, -⟩ := truthful _ rfl
        exact List.filter_eq_self.mp all
      · rintro replays _ rfl
        have all := List.filter_eq_self.mpr (replays base selected ⟨rfl, rfl⟩)
        exact ⟨selected, ⟨rfl, rfl⟩, all, (congrArg List.length all).symm⟩

end Answers

/-- The one file of `nightly`'s database cannot be read. -/
def unreadable : Answers where
  listBackups := .ok [nightly]
  listWalSegments := .ok [morning]
  resolvePitrTarget _ := .ok ()
  restorePlan := .ok ()
  read _ := .error (.other "permission denied")
  ungzip := .ok
  runRestore _ _ := .ok ()

/-- The answer says that one segment was replayed; none was. -/
theorem unreadable_segment_counted :
    unreadable.restorePitr "shop" 1500 = .ok ⟨nightly, [], 1⟩ ∧
      ¬ unreadable.Truthful "shop" 1500 := by
  refine ⟨?answer, fun truthful => ?_⟩
  · decide
  · obtain ⟨-, -, -, count⟩ := truthful _ ?answer
    exact absurd count (by decide)

end R3v3rs3.Platform.Pitr
