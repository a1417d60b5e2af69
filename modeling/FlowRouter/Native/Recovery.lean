import FlowRouter.Native.Endings

namespace FlowRouter.Native.Lifecycle
open Attempt

variable {tables : RteTables} {views : TableViews tables} {machine : Machine}
  {process : Process tables} {dp : DpState tables}

section Discipline

end Discipline

section Recovery

/-- A running device belongs to a started port, and started ports have different numbers. -/
structure DpState.Wired (dp : DpState tables) : Prop where
  devices : ∀ port, dp.devices port = true → ∃ side, dp.started side = true ∧ dp.ports side = port
  apart : ∀ side, dp.started side = true → dp.ports .rx ≠ dp.ports .tx

theorem Safe.wired (safe : Safe views machine dp) : dp.Wired where
  devices := safe.devices
  apart side started := safe.apart (safe.started side started).2.2

/-- The device of a port that is not started is stopped. -/
theorem DpState.Wired.still (wired : dp.Wired) {side : Side} (stopped : dp.started side = false) :
    dp.devices (dp.ports side) = false := by
  apply Bool.eq_false_iff.mpr
  intro running
  obtain ⟨other, started, same⟩ := wired.devices _ running
  refine DpState.ports_ne (wired.apart other started) (fun equal => ?_) same
  rw [equal] at started
  exact absurd (started.symm.trans stopped) (by decide)

/-- A port goes down together with its device. -/
theorem DpState.Wired.stop (wired : dp.Wired) {side : Side} (started : dp.started side = true) :
    DpState.Wired { dp.setDevice (dp.ports side) false with
      started := Function.update dp.started side false } where
  devices port running := by
    have differs : port ≠ dp.ports side := by
      intro same
      rw [same] at running
      exact absurd (running.symm.trans (Function.update_self _ _ _)) (by decide)
    have before : dp.devices port = true := (Function.update_of_ne differs _ _).symm.trans running
    obtain ⟨other, up, at_port⟩ := wired.devices port before
    have another : other ≠ side := fun equal => differs (equal ▸ at_port.symm)
    exact ⟨other, (Function.update_of_ne another _ _).trans up, at_port⟩
  apart _ _ := wired.apart side started

section Success
variable {answers : CloseAnswers}

end Success

end Recovery

end FlowRouter.Native.Lifecycle
