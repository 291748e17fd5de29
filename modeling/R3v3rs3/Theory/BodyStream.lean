/-
# R3v3rs3.Theory.BodyStream -- message bodies that arrive in frames

A body is the frames that a reader gets before it ends or fails.  The length that a body knows
beforehand is part of it, and so is what that length promises: a body never has more bytes, and
one that ends has exactly that many.

`Body.limited` is a body that fails as soon as a frame would pass a limit; it ends like the body it
wraps just when that body has no more bytes than the limit (`fitting_eq_self_iff`).  `Body.collect`
reads to the end; a failed body has no result.
-/
import Mathlib.Data.List.Basic

namespace R3v3rs3.Theory.BodyStream
set_option autoImplicit false

inductive Frame (Trailers : Type*) where
  | data (bytes : List UInt8)
  | trailers (fields : Trailers)
  deriving DecidableEq

section Frames

variable {Trailers : Type*}

def Frame.bytes : Frame Trailers → List UInt8
  | .data bytes => bytes
  | .trailers _ => []

@[simp] theorem Frame.bytes_data (bytes : List UInt8) :
    (Frame.data bytes : Frame Trailers).bytes = bytes := rfl

@[simp] theorem Frame.bytes_trailers (fields : Trailers) : (Frame.trailers fields).bytes = [] := rfl

/-- The bytes of all data frames. -/
def content (frames : List (Frame Trailers)) : List UInt8 := frames.flatMap Frame.bytes

@[simp] theorem content_nil : content ([] : List (Frame Trailers)) = [] := rfl

@[simp] theorem content_cons (frame : Frame Trailers) (rest : List (Frame Trailers)) :
    content (frame :: rest) = frame.bytes ++ content rest := rfl

/-- The frames before the first one that passes the limit. -/
def fitting : Nat → List (Frame Trailers) → List (Frame Trailers)
  | _, [] => []
  | limit, frame :: rest =>
    if limit < frame.bytes.length then [] else frame :: fitting (limit - frame.bytes.length) rest

theorem fitting_isPrefix (limit : Nat) (frames : List (Frame Trailers)) :
    fitting limit frames <+: frames := by
  induction frames generalizing limit with
  | nil => exact List.prefix_rfl
  | cons frame rest ih =>
    unfold fitting
    split
    · exact List.nil_prefix
    · exact (List.prefix_cons_inj frame).mpr (ih _)

theorem length_content_fitting_le (limit : Nat) (frames : List (Frame Trailers)) :
    (content (fitting limit frames)).length ≤ (content frames).length := by
  obtain ⟨rest, split⟩ := fitting_isPrefix limit frames
  have whole : content frames = content (fitting limit frames) ++ content rest := by
    rw [content, ← split, List.flatMap_append, split]
    rfl
  rw [whole, List.length_append]
  exact Nat.le_add_right _ _

theorem fitting_eq_self_iff (limit : Nat) (frames : List (Frame Trailers)) :
    (fitting limit frames).length = frames.length ↔ (content frames).length ≤ limit := by
  induction frames generalizing limit with
  | nil => simp [fitting]
  | cons frame rest ih =>
    unfold fitting
    rw [content_cons, List.length_append]
    split
    · rename_i passes
      simp only [List.length_nil, List.length_cons]
      omega
    · rename_i fits
      rw [List.length_cons, List.length_cons, Nat.add_right_cancel_iff, ih]
      omega

end Frames

/-! ## Bodies -/

structure Body (Trailers Failure : Type*) where
  frames : List (Frame Trailers)
  /-- How the body fails after the frames, if it does not end. -/
  failure : Option Failure
  /-- The number of bytes, where it is known beforehand. -/
  size : Option Nat
  exact : ∀ length ∈ size, (content frames).length ≤ length ∧
    (failure = none → (content frames).length = length)

namespace Body

variable {Trailers Failure Other : Type*} (body : Body Trailers Failure)

def bytes : List UInt8 := content body.frames

/-- Reads to the end. -/
def collect : Except Failure (List UInt8) :=
  match body.failure with
  | none => .ok body.bytes
  | some failure => .error failure

def mapErr (change : Failure → Other) : Body Trailers Other where
  frames := body.frames
  failure := body.failure.map change
  size := body.size
  exact length known := by
    refine ⟨(body.exact length known).1, fun ends => (body.exact length known).2 ?_⟩
    exact Option.map_eq_none_iff.mp ends

/-- A body that is in memory. -/
def full (bytes : List UInt8) : Body Trailers Failure where
  frames := if bytes = [] then [] else [.data bytes]
  failure := none
  size := some bytes.length
  exact length known := by
    cases known
    by_cases none : bytes = []
    · simp [none]
    · simp [none, Frame.bytes]

def empty : Body Trailers Failure where
  frames := []
  failure := none
  size := some 0
  exact length known := by
    cases known
    simp

/-- A body that fails where it passes the limit. -/
def limited (limit : Nat) (error : Failure) : Body Trailers Failure where
  frames := fitting limit body.frames
  failure :=
    if (fitting limit body.frames).length < body.frames.length then some error else body.failure
  size := body.size
  exact length known := by
    obtain ⟨atMost, ends⟩ := body.exact length known
    refine ⟨Nat.le_trans (length_content_fitting_le limit body.frames) atMost, fun whole => ?_⟩
    split at whole
    · cases whole
    · rename_i fits
      have all : fitting limit body.frames = body.frames :=
        (fitting_isPrefix limit body.frames).eq_of_length_le (Nat.le_of_not_lt fits)
      rw [all]
      exact ends whole

@[simp] theorem bytes_full (bytes : List UInt8) :
    (full bytes : Body Trailers Failure).bytes = bytes := by
  by_cases none : bytes = []
  · simp [full, Body.bytes, none]
  · simp [full, Body.bytes, none, Frame.bytes]

@[simp] theorem bytes_mapErr (change : Failure → Other) :
    (body.mapErr change).bytes = body.bytes := rfl

theorem collect_eq_ok {body : Body Trailers Failure} {bytes : List UInt8} :
    body.collect = .ok bytes ↔ body.failure = none ∧ bytes = body.bytes := by
  unfold collect
  cases body.failure with
  | none => simp [eq_comm]
  | some => simp

end Body

end R3v3rs3.Theory.BodyStream
