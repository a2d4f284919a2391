import FrpXtcp.Server.ManagerGates

/-!
# Each statement of the manager keeps its assertions

For every statement that a goroutine executes inside the manager: it is an operation
of `Core` that the goroutine is entitled to, or leaves `Core` as it is; it takes and
releases gates as its program counter says; and the next assertion holds.
-/
namespace FrpXtcp.Server.ControlManager

open FrpXtcp.Lib
open FrpXtcp.Server.Core (Effect GateOf)

/-- What a gate operation does to the gate that is held. -/
def GateMoves : GateOp → Option Nat → Option Nat → Prop
  | .keep, h, h' => h' = h
  | .lock g, h, h' => h = none ∧ h' = some g
  | .unlock g, h, h' => h = some g ∧ h' = none

structure Runs (env : Env) (free : Nat → Bool) (s : Core) (t : Tid) (pc : Pc) (s' : Core)
    (pc' : Pc) (op : GateOp) : Prop where
  core : s' = s ∨ ∃ a, Effect env s a s' ∧ Core.step env s a = some s' ∧
    Does free s (some t) (held pc) a s'
  gate : GateMoves op (held pc) (held pc')
  ann : Ann env s' t pc'

variable {env : Env} {free : Nat → Bool} {s s' : Core} {t : Tid} {c : Nat}

/-- `markReplaced` leaves no control running or waiting. -/
theorem markReplaced_rank (ctl : Control) (d : Nat) : 3 ≤ (ctl.markReplaced d).1.state.rank := by
  unfold Control.markReplaced
  cases hs : ctl.state <;> simp [hs, Control.finishLocked, ControlState.rank]

/-- The section of `Add` in which it admits its control. -/
theorem admitEntry_runs (free : Nat → Bool) {old : Option (Nat × Nat)} (hi : Core.Inv env s)
    (h : Ann env s (.login c) (.add c (.update old))) (hopen : s.closed = false)
    (hm : s.ctlsByRunID.get? (env.runID c) = old.map Prod.fst) :
    (s.admitEntry env c (old.map Prod.fst)).2 = none ∧
      Runs env free s (.login c) (.add c (.update old)) (s.admitEntry env c (old.map Prod.fst)).1
        (.add c (.unlock old .added)) .keep := by
  have hcreated : (s.life c).ctl.state = .created := h.actor
  have hstep : Core.step env s (.add c) = some (s.admitEntry env c (old.map Prod.fst)).1 := by
    simp [Core.step, hopen, hm]
  have he := hi.effect hstep
  rcases hi.add_cases c with ⟨hc, -, -⟩ | ⟨hnone, ha⟩
  · exact absurd hcreated hc
  rw [hm] at hnone ha
  have hadm : ((s.admitEntry env c (old.map Prod.fst)).1.life c).ctl.state ≠ .created := by
    rw [ha.state]
    simp
  have hoff := ha.worker.trans ((hi.life c).worker_off (Or.inl hcreated))
  refine ⟨hnone, Or.inr ⟨_, he, hstep, ?_⟩, ?_, rfl, ?_, trivial, trivial, ?_, hadm, hoff⟩
  · -- the gate of the entry that it replaces is held
    refine ⟨fun _ ht => ht, by simp, fun r e hr => ?_⟩
    cases he.mapChange r with
    | same heq => exact Or.inl (heq.trans hr)
    | added _ hrun _ _ _ =>
      rw [← hrun, hm] at hr
      obtain ⟨⟨e', g⟩, rfl, rfl⟩ := Option.map_eq_some_iff.mp hr
      exact Or.inr (congrArg some h.entry.2.symm)
  · cases old <;> rfl
  · rcases old with _ | ⟨e, g⟩
    · trivial
    · exact IsGate.stable h.entry he
  · rcases old with _ | ⟨e, g⟩
    · trivial
    · obtain ⟨hlt, hctl, -, -⟩ := he.entry h.entry.1
      refine ⟨hlt, ?_⟩
      rw [hctl, ha.replaced e rfl]
      exact markReplaced_rank _ _

theorem execAdd_runs {p : AddPc} {pc' : Pc} {op : GateOp} (hi : Core.Inv env s)
    (h : Ann env s (.login c) (.add c p)) (hx : execAdd env free s c p = some (s', pc', op)) :
    Runs env free s (.login c) (.add c p) s' pc' op := by
  have hlogin := h.actor
  cases p with
  | lookup =>
    simp only [execAdd] at hx
    split at hx <;> cases hx
    · exact ⟨Or.inl rfl, rfl, rfl, trivial, trivial, trivial, trivial, hlogin⟩
    · rename_i e he
      exact ⟨Or.inl rfl, rfl, rfl, ⟨hi.entry_lt _ e he, rfl⟩, trivial, trivial, trivial, hlogin⟩
  | lock e g =>
    cases hx
    exact ⟨Or.inl rfl, ⟨rfl, rfl⟩, rfl, h.entry, trivial, trivial, trivial, hlogin⟩
  | update old =>
    -- a section that decides against the control changes the program counter only
    have hback : ∀ out, out ≠ .added →
        Runs env free s (.login c) (.add c (.update old)) s (.add c (.unlock old out)) .keep := by
      intro out hout
      rcases old with _ | ⟨e, g⟩ <;> cases out <;> first
        | exact absurd rfl hout
        | exact ⟨Or.inl rfl, rfl, rfl, h.entry, trivial, trivial, trivial, hlogin⟩
    simp only [execAdd] at hx
    split at hx
    · cases hx
      exact hback _ (by simp)
    · rename_i hopen
      split at hx
      · cases hx
        exact hback _ (by simp)
      · rename_i hm
        obtain ⟨hnone, hruns⟩ := admitEntry_runs free hi h (by simpa using hopen)
          (by simpa using hm)
        split at hx
        · rw [hnone] at hx
          cases hx
          exact hruns
        · cases hx
  | unlock old out =>
    cases hx
    rcases old with _ | ⟨e, g⟩ <;> cases out
    · exact ⟨Or.inl rfl, rfl, rfl, trivial, trivial, trivial, trivial, hlogin⟩
    · exact ⟨Or.inl rfl, rfl, Or.inl rfl, trivial, trivial, trivial, trivial,
        (hi.life c).worker_off (Or.inl hlogin), Or.inr hlogin⟩
    · exact ⟨Or.inl rfl, rfl, rfl, trivial, trivial, trivial, trivial, hlogin⟩
    · exact ⟨Or.inl rfl, ⟨rfl, rfl⟩, rfl, trivial, trivial, trivial, trivial, hlogin⟩
    · exact ⟨Or.inl rfl, ⟨rfl, rfl⟩, Or.inl rfl, trivial, trivial, trivial, trivial,
        (hi.life c).worker_off (Or.inl hlogin), Or.inr hlogin⟩
    · exact ⟨Or.inl rfl, ⟨rfl, rfl⟩, rfl, trivial, trivial, trivial, h.replaced, hlogin⟩

section Call

variable {m : Method} {p p' : GatePc} {e g : Nat}

theorem Fits.call (h : Fits t (.call m p)) : Fits t (.call m p') := by
  cases m <;> exact h

/-- Within a method the goroutine's own knowledge changes only when it commits. -/
theorem ActorAt.call (h : ActorAt s t (.call m p)) (hp : committed p' = committed p) :
    ActorAt s t (.call m p') := by
  cases t with
  | login c =>
    cases m with
    | completeLogin d =>
      refine ⟨h.1, ?_⟩
      rw [hp]
      exact h.2
    | _ => exact h
  | worker c => exact h
  | conn n => trivial
  | closer n => cases m <;> exact h

/-- A statement of a method that leaves `Core` alone. -/
theorem Runs.same {op : GateOp} (h : Ann env s t (.call m p)) (hp : committed p' = committed p)
    (hgate : GateMoves op (held (.call m p)) (held (.call m p')))
    (hentry : EntryAt env s (.call m p')) (hgone : GoneAt env s (.call m p'))
    (hwriting : WritingAt s (.call m p')) :
    Runs env free s t (.call m p) s (.call m p') op :=
  ⟨Or.inl rfl, hgate, h.fits.call, hentry, hgone, hwriting, trivial, h.actor.call hp⟩

theorem not_current_of_none (h : s.ctlsByRunID.get? (env.runID c) = none) :
    s.current? (env.runID c) ≠ some c := by
  simp [Core.current?, h]

/-- `lockCurrentRun` of `Remove` does not look at `closed`. -/
theorem sees_remove (s : Core) (c : Nat) : sees s (.remove c) = true := by
  simp [sees, Method.allowClosed]

theorem lookup_runs {pc' : Pc} {op : GateOp} (h : Ann env s t (.call m .lookup)) {now : Nat}
    (hx : execCall env free s now m .lookup = some (s', pc', op)) :
    Runs env free s t (.call m .lookup) s' pc' op := by
  simp only [execCall] at hx
  split at hx
  · rename_i hm
    cases hx
    refine .same h rfl rfl trivial ?_ (by cases m <;> trivial)
    cases m with
    | remove c => exact not_current_of_none hm
    | _ => trivial
  · rename_i e hm
    split at hx
    · cases hx
      refine .same h rfl rfl trivial ?_ (by cases m <;> trivial)
      cases m with
      | remove c =>
        intro e' he' _
        rw [show s.ctlsByRunID.get? (env.runID c) = some e from hm] at he'
        rw [Option.some.inj he']
      | _ => trivial
    · rename_i hsees
      cases hx
      refine .same h rfl rfl trivial ?_ (by cases m <;> trivial)
      cases m with
      | remove c => exact absurd (sees_remove s c) hsees
      | _ => trivial

theorem revalidate_runs {pc' : Pc} {op : GateOp} (hi : Core.Inv env s)
    (h : Ann env s t (.call m (.revalidate g))) {now : Nat}
    (hx : execCall env free s now m (.revalidate g) = some (s', pc', op)) :
    Runs env free s t (.call m (.revalidate g)) s' pc' op := by
  have hgone := h.gone
  simp only [execCall] at hx
  split at hx
  · rename_i hm
    cases hx
    refine .same h rfl rfl trivial ?_ (by cases m <;> trivial)
    cases m with
    | remove c => exact not_current_of_none hm
    | _ => trivial
  · rename_i e hm
    split at hx
    · rename_i hok
      simp only [Bool.and_eq_true, decide_eq_true_eq] at hok
      cases hx
      exact .same h rfl rfl ⟨⟨hi.entry_lt _ e hm, hok.2⟩, hm⟩ (by cases m <;> trivial)
        (by cases m <;> trivial)
    · rename_i hno
      cases hx
      refine .same h rfl rfl trivial ?_ (by cases m <;> trivial)
      cases m with
      | remove c =>
        -- were the control current, this would be its gate
        intro hcur
        obtain ⟨e', he', hec⟩ := Core.current?_eq_some.mp hcur
        rw [show s.ctlsByRunID.get? (env.runID c) = some e from hm] at he'
        obtain rfl := Option.some.inj he'
        refine hno ?_
        rw [sees_remove, hgone e hm hec]
        simp
      | _ => trivial

/-- A body that performs an operation which changes no current control. -/
theorem Runs.operation {a : CoreAction} {ret : Ret} {pc : GatePc} (hi : Core.Inv env s)
    (h : Ann env s t (.call m pc)) (hheld : held (.call m pc) = some g)
    (hentry : IsGate s e g ∧ s.ctlsByRunID.get? (m.runID env) = some e)
    (hstep : Core.step env s a = some s')
    (hdoes : Does free s (some t) (some g) a s')
    (hmap : ∀ r, s'.ctlsByRunID.get? r = s.ctlsByRunID.get? r)
    (hm : ∀ c, m ≠ .remove c) (hactor : ActorAt s' t (.call m (.unlock e g ret))) :
    Runs env free s t (.call m pc) s' (.call m (.unlock e g ret)) .keep := by
  have he := hi.effect hstep
  refine ⟨Or.inr ⟨a, he, hstep, ?_⟩, hheld.symm, h.fits.call, ⟨hentry.1.stable he, fun _ => ?_⟩, ?_,
    ?_, trivial, hactor⟩
  · rw [hheld]
    exact hdoes
  · rw [hmap]
    exact hentry.2
  · cases m with
    | remove c => exact absurd rfl (hm c)
    | _ => trivial
  · cases m <;> trivial

theorem activate_runs {now : Nat} {res : Core × GatePc} (hi : Core.Inv env s)
    (h : Ann env s t (.call (.activate c) (.body e g)))
    (hx : execBody env free s now e g (.activate c) = some res) :
    Runs env free s t (.call (.activate c) (.body e g)) res.1 (.call (.activate c) res.2)
      .keep := by
  obtain rfl : t = .login c := h.fits
  obtain ⟨hho, hoff⟩ : s.handedOff c = true ∧ (s.life c).worker = .off := h.actor
  simp only [execBody] at hx
  split at hx <;> cases hx
  have hstep : Core.step env s (.activate c e now) = some (s.activate env c e now).1 := by
    simp [Core.step, hho]
  have he := hi.effect hstep
  have hmap : ∀ r, (s.activate env c e now).1.ctlsByRunID.get? r = s.ctlsByRunID.get? r := by
    intro r
    cases he.mapChange r with
    | same heq => exact heq
  exact .operation hi h rfl h.entry hstep
    ⟨fun _ ht => ht, by simp, fun r e' hr => Or.inl ((hmap r).trans hr)⟩ hmap (by simp)
    ⟨he.handedOff hho, he.off hoff (by simp)⟩

theorem completeLogin_runs {now : Nat} {res : Core × GatePc}
    (h : Ann env s t (.call (.completeLogin c) (.body e g)))
    (hx : execBody env free s now e g (.completeLogin c) = some res) :
    Runs env free s t (.call (.completeLogin c) (.body e g)) res.1 (.call (.completeLogin c) res.2)
      .keep := by
  have hback : Runs env free s t (.call (.completeLogin c) (.body e g)) s
      (.call (.completeLogin c) (.unlock e g (.completeLogin false none))) .keep :=
    .same h rfl rfl ⟨h.entry.1, fun _ => h.entry.2⟩ trivial trivial
  simp only [execBody] at hx
  split at hx
  · cases hx
    exact hback
  · rename_i ho
    split at hx
    · split at hx
      · cases hx
        exact hback
      · rename_i hst
        simp only [not_or, ne_eq, not_not, Bool.not_eq_false] at hst
        cases hx
        exact .same h rfl rfl h.entry trivial ⟨by simpa using ho, hst.1, hst.2⟩
    · cases hx

/-- Who is in `Remove` with the gate may remove. -/
theorem mayRemove_of_ann (h : Ann env s t (.call (.remove c) p)) : s.mayRemove c := by
  have hactor := h.actor
  rcases h.fits with rfl | rfl | ⟨n, rfl⟩
  · obtain ⟨hoff, hho | hc⟩ := hactor
    · exact Or.inl ⟨hho, hoff⟩
    · exact Or.inr (Or.inl hc)
  · exact Or.inr (Or.inr (Or.inl hactor))
  · exact Or.inr (Or.inr (Or.inr hactor.1))

/-- What a remover knows is not touched by the removal. -/
theorem ActorAt.removed {now : Nat} (h : Ann env s t (.call (.remove c) p)) (hi : Core.Inv env s)
    (he : Effect env s (.remove c e now) s') : ActorAt s' t (.call (.remove c) p') := by
  have hactor := h.actor
  rcases h.fits with rfl | rfl | ⟨n, rfl⟩
  · obtain ⟨hoff, hwhy⟩ := hactor
    exact ⟨he.off hoff nofun, hwhy.imp he.handedOff fun hc => he.created hi hc nofun nofun⟩
  · have hw : (s.life c).worker = .remove := hactor
    exact (he.worker_eq hi (by rw [hw]; nofun) nofun).trans hw
  · exact ⟨he.closed hactor.1, admitted_stable hactor.2 hi he⟩

theorem remove_runs {now : Nat} {res : Core × GatePc} (hi : Core.Inv env s)
    (h : Ann env s t (.call (.remove c) (.body e g)))
    (hx : execBody env free s now e g (.remove c) = some res) :
    Runs env free s t (.call (.remove c) (.body e g)) res.1 (.call (.remove c) res.2) .keep := by
  obtain ⟨hgate, hm⟩ : IsGate s e g ∧ s.ctlsByRunID.get? (env.runID c) = some e := h.entry
  cases hx
  have hstep : Core.step env s (.remove c e now) = some (s.remove env c e now).1 := by
    simp only [Core.step, if_pos (mayRemove_of_ann h)]
  have he := hi.effect hstep
  refine ⟨Or.inr ⟨_, he, hstep, by intros; contradiction, by intros; contradiction,
      fun r e' hr => ?_⟩, rfl, h.fits,
    ⟨hgate.stable he, fun hret => ?_⟩, ?_, trivial, trivial, .removed h hi he⟩
  · cases he.mapChange r with
    | same heq => exact Or.inl (heq.trans hr)
    | removed hrun hr' _ _ =>
      rw [hr] at hr'
      obtain rfl := Option.some.inj hr'
      exact Or.inr (congrArg some hgate.2.symm)
  · rcases Core.remove_cases env s c e now with ⟨heq, -⟩ | ⟨-, -, htrue, -⟩
    · rw [heq]
      exact hm
    · exact absurd (congrArg Ret.remove htrue) hret
  · rcases Core.remove_cases env s c e now with ⟨heq, hno⟩ | ⟨-, -, -, heq⟩
    · rw [heq]
      intro hcur
      obtain ⟨e', he', hec⟩ := Core.current?_eq_some.mp hcur
      obtain rfl := Option.some.inj (hm.symm.trans he')
      exact hno ⟨hm, hec ▸ hi.owns_of_current hm⟩
    · rw [heq]
      exact not_current_of_none (by simp)

theorem getByID_runs {now : Nat} {r : String} {res : Core × GatePc}
    (h : Ann env s t (.call (.getByID r) (.body e g)))
    (hx : execBody env free s now e g (.getByID r) = some res) :
    Runs env free s t (.call (.getByID r) (.body e g)) res.1 (.call (.getByID r) res.2) .keep := by
  have hback : ∀ ctl, Runs env free s t (.call (.getByID r) (.body e g)) s
      (.call (.getByID r) (.unlock e g (.getByID ctl))) .keep := fun ctl =>
    .same h rfl rfl ⟨h.entry.1, fun _ => h.entry.2⟩ trivial trivial
  simp only [execBody] at hx
  split at hx
  · split at hx <;> cases hx <;> exact hback _
  · cases hx

theorem registerWorkConn_runs {now n : Nat} {res : Core × GatePc} (hi : Core.Inv env s)
    (h : Ann env s t (.call (.registerWorkConn c n) (.body e g)))
    (hx : execBody env free s now e g (.registerWorkConn c n) = some res) :
    Runs env free s t (.call (.registerWorkConn c n) (.body e g)) res.1
      (.call (.registerWorkConn c n) res.2) .keep := by
  obtain rfl : t = .conn n := h.fits
  obtain ⟨hgate, hm⟩ : IsGate s e g ∧ s.ctlsByRunID.get? (env.runID c) = some e := h.entry
  simp only [execBody] at hx
  split at hx
  · cases hx
    exact .same h rfl rfl ⟨hgate, fun _ => hm⟩ trivial trivial
  · rename_i ho
    simp only [not_not] at ho
    split at hx <;> cases hx
    have hcur : s.current? (env.runID c) = some c := by
      rw [Core.current?_of_get hm, ho.1]
    have hstep : Core.step env s (.putConn c n) =
        some (s.setLife c ((s.life c).putConn (env.runID c) n).1) := by
      simp only [Core.step, if_pos hcur]
    exact .operation hi h rfl h.entry hstep
      ⟨fun _ ht => ht, by simp, fun r e' hr => Or.inl hr⟩ (fun _ => rfl) (by simp) trivial

/-- After a successful write `startLocked` cannot fail. -/
theorem Writes.started (h : Writes s c e) : (s.life c).ctl.startLocked.2 = true := by
  simp [Control.startLocked, h.pending, h.activated]

theorem written_runs {now : Nat} {pc' : Pc} {op : GateOp} (hi : Core.Inv env s)
    (h : Ann env s t (.call m (.written e g)))
    (hx : execCall env free s now m (.written e g) = some (s', pc', op)) :
    Runs env free s t (.call m (.written e g)) s' pc' op := by
  cases m with
  | completeLogin c =>
    cases hx
    obtain rfl : t = .login c := h.fits
    have hw : Writes s c e := h.writing
    have hho : s.handedOff c = true := h.actor.1
    have hm : s.ctlsByRunID.get? (env.runID c) = some e := h.entry.2
    have hcur : s.current? (env.runID c) = some c := by
      rw [Core.current?_of_get hm, hw.owns.1]
    have hstep : Core.step env s (.start c) = some (s.setLife c (s.life c).start) := by
      simp only [Core.step, if_pos (And.intro hho hcur)]
    have hon : (s.life c).start.worker ≠ .off := by simp [Life.start, hw.started]
    refine .operation hi h rfl h.entry hstep
      ⟨fun _ ht => ht, by simp, fun r e' hr => Or.inl hr⟩ (fun _ => rfl) (by simp) ⟨hho, ?_⟩
    simp [hon, committed, hw.started]
  | _ => exact absurd h.writing id

theorem execCall_runs {now : Nat} {pc' : Pc} {op : GateOp} (hi : Core.Inv env s)
    (h : Ann env s t (.call m p)) (hx : execCall env free s now m p = some (s', pc', op)) :
    Runs env free s t (.call m p) s' pc' op := by
  cases p with
  | lookup => exact lookup_runs h hx
  | acquire g =>
    cases hx
    refine .same h rfl ⟨rfl, rfl⟩ trivial ?_ (by cases m <;> trivial)
    have := h.gone
    cases m <;> exact this
  | revalidate g => exact revalidate_runs hi h hx
  | unlockFailed g =>
    cases hx
    refine .same h rfl ⟨rfl, rfl⟩ trivial ?_ (by cases m <;> trivial)
    have := h.gone
    cases m <;> exact this
  | failed =>
    cases hx
    refine .same h ?_ rfl trivial ?_ (by cases m <;> trivial)
    · cases m <;> first | rfl | (simp only [Method.lockFailed]; split <;> rfl)
    · have := h.gone
      cases m <;> exact this
  | body e g =>
    simp only [execCall, Option.map_eq_some_iff] at hx
    obtain ⟨res, hx, heq⟩ := hx
    cases heq
    cases m with
    | activate c => exact activate_runs hi h hx
    | completeLogin c => exact completeLogin_runs h hx
    | remove c => exact remove_runs hi h hx
    | getByID r => exact getByID_runs h hx
    | registerWorkConn c n => exact registerWorkConn_runs hi h hx
  | writing e g => cases hx
  | written e g => exact written_runs hi h hx
  | unlock e g ret =>
    cases hx
    refine .same h ?_ ⟨rfl, rfl⟩ trivial ?_ (by cases m <;> trivial)
    · unfold committed
      split <;> simp_all
    have := h.gone
    cases m <;> exact this
  | returned ret => cases hx

end Call

/-- A replaced control is past `markReplaced`. -/
theorem markReplaced_again {ctl : Control} (h : 3 ≤ ctl.state.rank) (d : Nat) :
    (ctl.markReplaced d).1 = ctl := by
  unfold Control.markReplaced
  cases hs : ctl.state <;> simp_all [ControlState.rank]

/-- Every statement of a goroutine inside the manager. -/
theorem exec_runs {now : Nat} {pc pc' : Pc} {op : GateOp} (hi : Core.Inv env s)
    (h : Ann env s t pc) (hx : exec env free s now pc = some (s', pc', op)) :
    Runs env free s t pc s' pc' op := by
  cases pc with
  | add c p =>
    obtain rfl : t = .login c := h.fits
    exact execAdd_runs hi h hx
  | replaced c e =>
    simp only [exec] at hx
    split at hx <;> cases hx
    have hsame : s.setCtl (s.entries e).ctl
        ((s.life (s.entries e).ctl).ctl.markReplaced (s.entries e).ctl).1 = s := by
      rw [markReplaced_again h.replaced.2]
      simp [Core.setCtl, Core.setLife]
    rw [hsame]
    have hfits := h.fits
    obtain rfl : t = .login c := hfits
    exact ⟨Or.inl rfl, rfl, rfl, trivial, trivial, trivial, trivial, h.actor⟩
  | waitForHandoff c =>
    obtain rfl : t = .login c := h.fits
    obtain ⟨hadm, hoff⟩ : (s.life c).ctl.state ≠ .created ∧ (s.life c).worker = .off := h.actor
    simp only [exec] at hx
    split at hx <;> cases hx
    rename_i hdone
    have hstep : Core.step env s (.handoff c) =
        some { s with handedOff := Function.update s.handedOff c true } := by
      simp only [Core.step, if_pos (And.intro hadm hdone.2)]
    refine ⟨Or.inr ⟨_, hi.effect hstep, hstep, fun _ ht => ht, by simp, fun r e hr => Or.inl hr⟩,
      rfl, rfl, trivial, trivial, trivial, trivial, ?_, hoff⟩
    simp
  | call m p => exact execCall_runs hi h hx
  | close c =>
    simp only [exec] at hx
    split at hx <;> cases hx
    rename_i hfree
    have hstep : Core.step env s (.close c) = some (s.setCtl c (s.life c).ctl.close) := by
      simp only [Core.step, if_pos (show s.mayClose env c from Or.inr h.gone)]
    have he := hi.effect hstep
    have hactor := h.actor
    refine ⟨Or.inr ⟨_, he, hstep, by intros; contradiction, fun d hd => ?_,
      fun r e hr => Or.inl hr⟩, rfl,
      trivial, trivial, trivial, trivial, trivial, ?_⟩
    · cases hd
      refine ⟨?_, hfree⟩
      rcases h.fits with rfl | ⟨n, rfl⟩
      · exact Or.inr rfl
      · exact Or.inl hactor.2
    · rcases h.fits with rfl | ⟨n, rfl⟩
      · trivial
      · exact he.closed hactor.1
  | idle => cases hx
  | closed => cases hx
  | done => cases hx

end FrpXtcp.Server.ControlManager
