import Handheld.Proofs.Bus.Ticks
import Handheld.Proofs.Bus.Writes

/-!
# Where requests come from and where they go

A request stays until its interrupt is accepted, and it comes from the timer register as it
overflows; all else is a write to the request byte.  The enabled sources change by a write
to their byte only.  `Explain` says that events account in this way for what has become of
an interrupt controller.  It can be shown piece by piece: what explains one part of
a change explains, with what explains the rest, the whole.
-/

namespace Handheld

namespace Event

theorem targets_subset {events all : List Event} (h : events ⊆ all) :
    targets events ⊆ targets all :=
  List.filterMap_subset target? h

/-- The events account for the difference of the second interrupt controller from the first:
for every request that is gone, every one that is new, and the enabled sources. -/
structure Explain (events : List Event) (ic ic' : InterruptController) : Prop where
  gone : ∀ n, ic.requests.toNat.testBit n = true → ic'.requests.toNat.testBit n = false →
    Bus.interruptRequestsAddress ∈ targets events ∨
      ∃ k : Interrupt, k.bit = n ∧ .accepting k ∈ events
  new : ∀ n, ic.requests.toNat.testBit n = false → ic'.requests.toNat.testBit n = true →
    Bus.interruptRequestsAddress ∈ targets events ∨
      n = Interrupt.timer.bit ∧ ∃ v, .timerOverflow v ∈ events
  enable : ic'.enable ≠ ic.enable → Bus.interruptEnableAddress ∈ targets events

namespace Explain

variable {events later : List Event} {ic ic' ic'' : InterruptController}

/-- Each of the two bytes is as it was, or has been written to. -/
theorem of_written_or_eq
    (hrequests : Bus.interruptRequestsAddress ∈ targets events ∨ ic'.requests = ic.requests)
    (henable : Bus.interruptEnableAddress ∈ targets events ∨ ic'.enable = ic.enable) :
    Explain events ic ic' where
  gone n hbefore hafter := by
    rcases hrequests with hwrite | hsame
    · exact .inl hwrite
    · rw [hsame, hbefore] at hafter
      cases hafter
  new n hbefore hafter := by
    rcases hrequests with hwrite | hsame
    · exact .inl hwrite
    · rw [hsame, hbefore] at hafter
      cases hafter
  enable hne := henable.resolve_right hne

theorem of_bytes_eq (h : ic'.bytes = ic.bytes) : Explain events ic ic' :=
  of_written_or_eq (.inr (Prod.mk.inj h).2) (.inr (Prod.mk.inj h).1)

theorem mono {all : List Event} (h : Explain events ic ic') (hsub : events ⊆ all) :
    Explain all ic ic' where
  gone n hbefore hafter := by
    refine (h.gone n hbefore hafter).imp (fun hwrite => targets_subset hsub hwrite) ?_
    rintro ⟨k, hk, hmem⟩
    exact ⟨k, hk, hsub hmem⟩
  new n hbefore hafter := by
    refine (h.new n hbefore hafter).imp (fun hwrite => targets_subset hsub hwrite) ?_
    rintro ⟨hn, v, hmem⟩
    exact ⟨hn, v, hsub hmem⟩
  enable hne := targets_subset hsub (h.enable hne)

/-- A request that is there or not in between has gone or come before or after that. -/
theorem trans (h : Explain events ic ic') (h' : Explain events ic' ic'') :
    Explain events ic ic'' where
  gone n hbefore hafter := by
    cases hbetween : ic'.requests.toNat.testBit n with
    | false => exact h.gone n hbefore hbetween
    | true => exact h'.gone n hbetween hafter
  new n hbefore hafter := by
    cases hbetween : ic'.requests.toNat.testBit n with
    | false => exact h'.new n hbetween hafter
    | true => exact h.new n hbefore hbetween
  enable hne := by
    by_cases hbetween : ic'.enable = ic.enable
    · exact h'.enable (hbetween.symm ▸ hne)
    · exact h.enable hbetween

theorem append (h : Explain events ic ic') (h' : Explain later ic' ic'') :
    Explain (events ++ later) ic ic'' :=
  (h.mono (List.subset_append_left events later)).trans
    (h'.mono (List.subset_append_right events later))

end Explain

/-! ## What happens to an interrupt controller -/

variable {events : List Event}

theorem explain_accept (ic : InterruptController) (k : Interrupt) :
    Explain [.accepting k] ic (ic.accept k) where
  gone n hbefore hafter := by
    rw [InterruptController.testBit_accept, hbefore, Bool.true_and, Bool.not_eq_false',
      decide_eq_true_eq] at hafter
    exact .inr ⟨k, hafter, List.mem_singleton.mpr rfl⟩
  new n hbefore hafter := by
    rw [InterruptController.testBit_accept, hbefore] at hafter
    cases hafter
  enable hne := absurd rfl hne

theorem explain_tick (bus : Bus) (ticks : Nat) :
    Explain (bus.tickEvents ticks) bus.interrupts (bus.tick ticks).interrupts where
  gone n hbefore hafter := by
    rw [Bus.testBit_requests_tick, hbefore] at hafter
    cases hafter
  new n hbefore hafter := by
    rw [Bus.testBit_requests_tick, hbefore, Bool.false_or, Bool.and_eq_true,
      decide_eq_true_eq] at hafter
    obtain ⟨hover, hn⟩ := hafter
    refine .inr ⟨hn.symm, bus.timer.modulo, ?_⟩
    rw [Bus.tickEvents, if_pos hover]
    exact List.mem_cons_self
  enable hne := absurd (Bus.enable_tick bus ticks) hne

/-- Writes are explained by events that tell of them. -/
theorem explain_writeAll (bus : Bus) {writes : List (Word × Byte)}
    (htargets : targets events = writes.map Prod.fst) :
    Explain events bus.interrupts (bus.writeAll writes).interrupts := by
  refine .of_written_or_eq ?_ ?_
  · rw [htargets, or_iff_not_imp_left]
    intro hwrite
    exact Bus.requests_writeAll bus hwrite
  · rw [htargets, or_iff_not_imp_left]
    intro hwrite
    exact Bus.enable_writeAll bus hwrite

end Event

end Handheld
