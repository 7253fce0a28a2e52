import SimpleProcessor.MultiCycle.Beside

/-!
# Transfers look atomic

Six clocks of the multi-cycle machine are one instruction of the specification in
which a transfer happens at once.  The engine may need the memory port at any time
and for any number of instructions, up to the bound that the specification states.
-/

namespace SimpleProcessor.MultiCycle

open Transition Dma Choice
open Atomic (Pending Step)

section Exec1

variable {shifts : Shifts} {request : Option Request} {mem : Image} {bound : Nat}
variable {state : State} {busy : Bool} {word : Word} {cpu : CpuRegisters}

theorem cpuAccess_inExec1 :
    cpuAccess (inExec1 shifts busy word cpu) =
      if (Fields.ofWord word).opcode = .st then
        some (.write ((Fields.ofWord word).operand1 cpu.r)
          ((Fields.ofWord word).operand0 cpu.r))
      else none := by
  by_cases store : (Fields.ofWord word).opcode = .st <;>
    simp [cpuAccess, inExec1, operandsRead, store, Fields.operand0]

theorem next_exec1_beside (engaged : Engaged request mem (bound + 1) state)
    (running : state.stopSim = false)
    (reached : state.spro.toCpuRegisters = inExec1 shifts busy word cpu)
    (notIdle : word ≠ HLT)
    (refused : (Fields.ofWord word).opcode = .dma → state.spro.dma.busy = true)
    (store : (Fields.ofWord word).opcode = .st →
      ((Fields.ofWord word).operand1 cpu.r).InRange ∧
        ∀ active ∈ request,
          ¬ active.Writes ((Fields.ofWord word).operand1 cpu.r).address ∧
          ¬ active.Reads ((Fields.ofWord word).operand1 cpu.r).address) :
    ∃ state', next shifts state = some state' ∧
      state'.spro.toCpuRegisters = { inExec1 shifts busy word cpu with
        r := exec1Regs state.sram.dataout (inExec1 shifts busy word cpu)
        pc := exec1Pc state.spro.dma.busy (inExec1 shifts busy word cpu)
        ctlState := .fetch0 } ∧
      state'.stopSim = decide ((Fields.ofWord word).opcode = .hlt) ∧
      Engaged request
        (if (Fields.ofWord word).opcode = .st then
          Function.update mem ((Fields.ofWord word).operand1 cpu.r).address
            ((Fields.ofWord word).operand0 cpu.r)
        else mem) bound state' := by
  have access : cpuAccess state.spro.toCpuRegisters = _ :=
    (congrArg cpuAccess reached).trans cpuAccess_inExec1
  have ctlState : state.spro.ctlState = .exec1 := congrArg CpuRegisters.ctlState reached
  have opcode : state.spro.opcode = (Fields.ofWord word).opcode :=
    congrArg CpuRegisters.opcode reached
  have step : next shifts state = some (state.after shifts) := by
    refine next_eq_some.mpr ⟨running, ?_, rfl⟩
    rw [access]
    split
    next st =>
      rintro _ ⟨⟩
      exact (store st).1
    next => simp
  have noRequest : state.cpuClock.accepted state.spro.dma = none := by
    by_cases dma : (Fields.ofWord word).opcode = .dma
    · exact CpuClock.accepted_of_busy _ (refused dma)
    · simp [CpuClock.accepted, State.cpuClock, dmaRequest, opcode, dma]
  refine ⟨state.after shifts, step, ?_, ?_, ?_⟩
  · have inst : (inExec1 shifts busy word cpu).inst ≠ HLT := notIdle
    have exec1 : (inExec1 shifts busy word cpu).ctlState = .exec1 := rfl
    simp only [State.after, nextCpu, reached, exec1, inst, if_false]
  · simp [State.after, halts, ctlState, opcode, running]
  · have stored : state.cpuClock.stores mem =
        if (Fields.ofWord word).opcode = .st then
          Function.update mem ((Fields.ofWord word).operand1 cpu.r).address
            ((Fields.ofWord word).operand0 cpu.r)
        else mem := by
      have made : state.cpuClock.access = _ := access
      rw [CpuClock.stores, made]
      by_cases st : (Fields.ofWord word).opcode = .st <;> simp [st]
    rw [← stored]
    refine engaged.next noRequest ?_ step
    intro addr value made
    rw [access] at made
    split at made
    next st =>
      cases made
      exact (store st).2
    next => cases made

theorem next_exec1_start (rest : state.spro.dma.AtRest) (data : state.sram.data = mem)
    (running : state.stopSim = false)
    (reached : state.spro.toCpuRegisters = inExec1 shifts busy word cpu)
    (notIdle : word ≠ HLT) (dma : (Fields.ofWord word).opcode = .dma)
    (made : (Request.mk ((Fields.ofWord word).operand0 cpu.r)
      (cpu.r (Fields.ofWord word).dst) ((Fields.ofWord word).operand1 cpu.r)).Proper) :
    let request := Request.mk ((Fields.ofWord word).operand0 cpu.r)
      (cpu.r (Fields.ofWord word).dst) ((Fields.ofWord word).operand1 cpu.r)
    ∃ state', next shifts state = some state' ∧
      state'.spro.toCpuRegisters = { inExec1 shifts busy word cpu with
        pc := cpu.pc + 1#32
        ctlState := .fetch0 } ∧
      state'.stopSim = false ∧
      Engaged (some request) (request.copied mem mem) (4 * request.count + 5) state' := by
  intro request
  have access : cpuAccess state.spro.toCpuRegisters = none := by
    rw [reached, cpuAccess_inExec1, if_neg (by simp [dma])]
  have opcode : state.spro.opcode = .dma :=
    (congrArg CpuRegisters.opcode reached).trans dma
  have ctlState : state.spro.ctlState = .exec1 := congrArg CpuRegisters.ctlState reached
  have offered : dmaRequest state.spro.toCpuRegisters = some request := by
    rw [reached]
    simp [dmaRequest, inExec1, operandsRead, dma, exec0Aluout, request, Fields.operand0]
  have step : next shifts state = some (state.after shifts) := by
    refine next_eq_some.mpr ⟨running, ?_, rfl⟩
    rw [access]
    simp
  obtain ⟨idle, inFlight, distance⟩ := loaded_transfer shifts rest offered made.positive
  refine ⟨state.after shifts, step, ?_, ?_, ?_⟩
  · have inst : (inExec1 shifts busy word cpu).inst ≠ HLT := notIdle
    have exec1 : (inExec1 shifts busy word cpu).ctlState = .exec1 := rfl
    simp only [State.after, nextCpu, reached, exec1, inst, if_false, rest.free]
    simp [exec1Regs, exec1Pc, inExec1, operandsRead, dma]
  · simp [State.after, halts, ctlState, opcode, running]
  · have same : (state.after shifts).sram.data = mem := by
      have port : state.portAccess = none :=
        (rest.portAccess_eq state.cpuClock_wellTimed).trans access
      simp [State.after, port, data]
    refine .transfer rfl made inFlight ?_ rfl distance
    have start : System.copier ⟨(state.after shifts).spro.dma, (state.after shifts).sram⟩ 0 =
        ⟨mem, 0, []⟩ := by
      simp [System.copier, DmaRegisters.queue, idle, same]
    rw [start]
    exact ReadAhead.Correct.start _ _ _ _

end Exec1

/-! ## One instruction -/

/-- The clocks that a pending transfer may still need after the next instruction. -/
def budget (pending : Option Pending) : Nat :=
  match pending with
  | none => 0
  | some pending => 6 * pending.left

/-- The machine between two instructions, or stopped, and what its program may see. -/
structure Agrees (state : State) (spec : Atomic.State) : Prop where
  stopSim : state.stopSim = spec.halted
  fetch0 : spec.halted = false → state.spro.ctlState = .fetch0
  pc : state.spro.pc = spec.pc
  r : state.spro.r = spec.regs
  engaged : Engaged (spec.pending.map Pending.request) spec.mem (budget spec.pending + 6) state

/-- After an instruction a transfer has come six clocks closer to its end. -/
theorem Engaged.aged {pending : Option Pending} {mem : Image} {state : State}
    (engaged : Engaged (pending.map Pending.request) mem (budget pending) state) :
    Engaged ((pending.bind Pending.next).map Pending.request) mem
      (budget (pending.bind Pending.next) + 6) state := by
  cases pending with
  | none =>
      cases engaged with
      | rest rest data => exact .rest rest data
      | transfer pending => cases pending
  | some pending =>
      obtain ⟨request, proper, left⟩ := pending
      cases left with
      | zero =>
          obtain ⟨rest, data⟩ := engaged.of_bound
          exact .rest rest data
      | succ left => exact engaged

section Instruction

variable {shifts : Shifts} {state : State} {spec : Atomic.State}

theorem Agrees.reach_exec1 (shifts : Shifts) (agrees : Agrees state spec)
    (defined : spec.Defined) :
    ∃ busy state', runFor (next shifts) 5 state = some state' ∧
      state'.spro.toCpuRegisters = inExec1 shifts busy spec.word state.spro.toCpuRegisters ∧
      Engaged (spec.pending.map Pending.request) spec.mem (budget spec.pending + 1) state' ∧
      state'.stopSim = false ∧
      (busy = true → spec.pending.isSome = true) ∧
      (busy = false → state'.spro.dma.busy = false) ∧
      (spec.fields.opcode = .ld → state'.sram.dataout =
        spec.mem (spec.fields.operand1 spec.regs).address) := by
  have readable {addr : Address} (readable : spec.Readable addr) :
      ∀ active ∈ spec.pending.map Pending.request, ¬ active.Writes addr := by
    intro active member
    obtain ⟨pending, some, rfl⟩ := Option.mem_map.mp member
    exact readable pending some
  have running : state.stopSim = false := agrees.stopSim.trans defined.running
  have inRange : state.spro.pc.InRange := by
    rw [agrees.pc]
    exact defined.inRange
  have word : spec.mem state.spro.pc.address = spec.word := by
    rw [agrees.pc]
    rfl
  have reached := reach_exec1_beside shifts agrees.engaged running
    (agrees.fetch0 defined.running) inRange
    (by
      rw [agrees.pc]
      exact readable defined.fetch)
    (by
      intro load
      rw [word, agrees.r]
      rw [word] at load
      exact readable (defined.load load))
  rw [word, agrees.r, Option.isSome_map] at reached
  exact reached

theorem Agrees.next_exec1 {busy : Bool} {pending : Option Pending} (defined : spec.Defined)
    (agrees : Agrees state spec) {state5 : State}
    (cpu5 : state5.spro.toCpuRegisters =
      inExec1 shifts busy spec.word state.spro.toCpuRegisters)
    (engaged5 : Engaged (pending.map Pending.request) spec.mem (budget pending + 1) state5)
    (away : ∀ one ∈ pending, one ∈ spec.pending) (running5 : state5.stopSim = false)
    (refused : spec.fields.opcode = .dma → state5.spro.dma.busy = true) :
    ∃ state', next shifts state5 = some state' ∧
      state'.spro.toCpuRegisters =
        { inExec1 shifts busy spec.word state.spro.toCpuRegisters with
          r := exec1Regs state5.sram.dataout
            (inExec1 shifts busy spec.word state.spro.toCpuRegisters)
          pc := exec1Pc state5.spro.dma.busy
            (inExec1 shifts busy spec.word state.spro.toCpuRegisters)
          ctlState := .fetch0 } ∧
      state'.stopSim = decide (spec.fields.opcode = .hlt) ∧
      Engaged ((pending.bind Pending.next).map Pending.request)
        (if spec.fields.opcode = .st then
          Function.update spec.mem (spec.fields.operand1 spec.regs).address
            (spec.fields.operand0 spec.regs)
        else spec.mem) (budget (pending.bind Pending.next) + 6) state' := by
  have stored := next_exec1_beside engaged5 running5 cpu5 defined.notIdle refused (by
    rw [agrees.r]
    intro store
    obtain ⟨inRange, writable⟩ := defined.store store
    refine ⟨inRange, ?_⟩
    intro active member
    obtain ⟨one, some, rfl⟩ := Option.mem_map.mp member
    exact writable one (away one some))
  rw [agrees.r] at stored
  obtain ⟨state', step, cpu, stopSim, engaged⟩ := stored
  exact ⟨state', step, cpu, stopSim, engaged.aged⟩

theorem Agrees.execute (agrees : Agrees state spec) (defined : spec.Defined)
    (basic : spec.fields.opcode.isBasic = true) (notHlt : spec.fields.opcode ≠ .hlt) :
    ∃ state' spec', runFor (next shifts) 6 state = some state' ∧ Step shifts spec spec' ∧
      Agrees state' spec' := by
  obtain ⟨busy, state5, run5, cpu5, engaged5, running5, -, -, loaded⟩ :=
    agrees.reach_exec1 shifts defined
  have notDma : spec.fields.opcode ≠ .dma := by
    intro dma
    simp [dma, Opcode.isBasic] at basic
  have notDmp : spec.fields.opcode ≠ .dmp := by
    intro dmp
    simp [dmp, Opcode.isBasic] at basic
  obtain ⟨state6, step6, cpu6, stopSim6, engaged6⟩ :=
    agrees.next_exec1 defined cpu5 engaged5 (fun _ => id) running5 (absurd · notDma)
  have before : inExec1 shifts busy spec.word state.spro.toCpuRegisters =
      beforeExec1 shifts spec.word state.spro.toCpuRegisters := inExec1_eq notDmp
  rw [← agrees.r] at loaded
  obtain ⟨regs, pc, -, -⟩ := exec1_execute shifts spec.mem basic loaded
  have opcode : (beforeExec1 shifts spec.word state.spro.toCpuRegisters).opcode =
      spec.fields.opcode := rfl
  have samePc : exec1Pc state5.spro.dma.busy
      (beforeExec1 shifts spec.word state.spro.toCpuRegisters) =
      exec1Pc false (beforeExec1 shifts spec.word state.spro.toCpuRegisters) := by
    simp only [exec1Pc]
    cases same : (beforeExec1 shifts spec.word state.spro.toCpuRegisters).opcode with
    | dma => exact absurd (opcode.symm.trans same) notDma
    | _ => rfl
  rw [before, samePc, regs, pc notHlt, agrees.pc, agrees.r] at cpu6
  refine ⟨state6, _, runFor_snoc run5 step6, .execute basic notHlt, ?_⟩
  exact {
    stopSim := by simp [stopSim6, notHlt]
    fetch0 := fun _ => congrArg CpuRegisters.ctlState cpu6
    pc := congrArg CpuRegisters.pc cpu6
    r := congrArg CpuRegisters.r cpu6
    engaged := engaged6 }

theorem Agrees.halt (agrees : Agrees state spec) (defined : spec.Defined)
    (hlt : spec.fields.opcode = .hlt) :
    ∃ state' spec', runFor (next shifts) 6 state = some state' ∧ Step shifts spec spec' ∧
      Agrees state' spec' := by
  obtain ⟨busy, state5, run5, cpu5, engaged5, running5, -⟩ :=
    agrees.reach_exec1 shifts defined
  obtain ⟨state6, step6, cpu6, stopSim6, engaged6⟩ :=
    agrees.next_exec1 defined cpu5 engaged5 (fun _ => id) running5 (by simp [hlt])
  have opcode : (inExec1 shifts busy spec.word state.spro.toCpuRegisters).opcode = .hlt := hlt
  simp only [exec1Regs, exec1Pc, opcode] at cpu6
  rw [if_neg (by simp [hlt])] at engaged6
  refine ⟨state6, _, runFor_snoc run5 step6, .halt hlt, ?_⟩
  exact {
    stopSim := by simp [stopSim6, hlt]
    fetch0 := fun goesOn => by cases goesOn
    pc := (congrArg CpuRegisters.pc cpu6).trans agrees.pc
    r := (congrArg CpuRegisters.r cpu6).trans agrees.r
    engaged := engaged6 }

theorem Agrees.jump (agrees : Agrees state spec) {pending : Option Pending} {busy : Bool}
    (opcode : spec.fields.opcode = .jin ∨ spec.fields.opcode = .dmp ∧ busy = false)
    {dataout : Word} {busy' : Bool} {state' : State}
    (cpu : state'.spro.toCpuRegisters =
      { inExec1 shifts busy spec.word state.spro.toCpuRegisters with
        r := exec1Regs dataout (inExec1 shifts busy spec.word state.spro.toCpuRegisters)
        pc := exec1Pc busy' (inExec1 shifts busy spec.word state.spro.toCpuRegisters)
        ctlState := .fetch0 })
    (stopSim : state'.stopSim = decide (spec.fields.opcode = .hlt))
    (engaged : Engaged (pending.map Pending.request)
      (if spec.fields.opcode = .st then
        Function.update spec.mem (spec.fields.operand1 spec.regs).address
          (spec.fields.operand0 spec.regs)
      else spec.mem) (budget pending + 6) state') :
    Agrees state' (spec.jump pending) := by
  have aluout : (inExec1 shifts busy spec.word state.spro.toCpuRegisters).aluout = 1#32 := by
    have named : (operandsRead spec.word state.spro.toCpuRegisters).opcode =
        spec.fields.opcode := rfl
    rcases opcode with jin | ⟨dmp, free⟩
    · simp [inExec1, exec0Aluout, named, jin]
    · simp [inExec1, exec0Aluout, named, dmp, free, intOfBool]
  have named : (inExec1 shifts busy spec.word state.spro.toCpuRegisters).opcode = .jin ∨
      (inExec1 shifts busy spec.word state.spro.toCpuRegisters).opcode = .dmp :=
    opcode.imp_right And.left
  have noStore : spec.fields.opcode ≠ .st ∧ spec.fields.opcode ≠ .hlt := by
    rcases opcode with jin | ⟨dmp, -⟩
    · simp [jin]
    · simp [dmp]
  have regs : exec1Regs dataout (inExec1 shifts busy spec.word state.spro.toCpuRegisters) =
      Function.update spec.regs 7#3 spec.pc := by
    rw [← agrees.r, ← agrees.pc]
    rcases named with jin | dmp
    · simp only [exec1Regs, jin, aluout]
      rfl
    · simp only [exec1Regs, dmp, aluout]
      rfl
  have pc : exec1Pc busy' (inExec1 shifts busy spec.word state.spro.toCpuRegisters) =
      spec.fields.immediate := by
    rcases named with jin | dmp
    · simp only [exec1Pc, jin, aluout]
      rfl
    · simp only [exec1Pc, dmp, aluout]
      rfl
  rw [regs, pc] at cpu
  rw [if_neg noStore.1] at engaged
  exact {
    stopSim := by simp [stopSim, noStore.2, Atomic.State.jump]
    fetch0 := fun _ => congrArg CpuRegisters.ctlState cpu
    pc := congrArg CpuRegisters.pc cpu
    r := congrArg CpuRegisters.r cpu
    engaged := engaged }

theorem Agrees.jin (agrees : Agrees state spec) (defined : spec.Defined)
    (jin : spec.fields.opcode = .jin) :
    ∃ state' spec', runFor (next shifts) 6 state = some state' ∧ Step shifts spec spec' ∧
      Agrees state' spec' := by
  obtain ⟨busy, state5, run5, cpu5, engaged5, running5, -⟩ :=
    agrees.reach_exec1 shifts defined
  obtain ⟨state6, step6, cpu6, stopSim6, engaged6⟩ :=
    agrees.next_exec1 defined cpu5 engaged5 (fun _ => id) running5 (by simp [jin])
  exact ⟨state6, _, runFor_snoc run5 step6, .jin jin,
    agrees.jump (Or.inl jin) cpu6 stopSim6 engaged6⟩

theorem Agrees.dmp (agrees : Agrees state spec) (defined : spec.Defined)
    (dmp : spec.fields.opcode = .dmp) :
    ∃ state' spec', runFor (next shifts) 6 state = some state' ∧ Step shifts spec spec' ∧
      Agrees state' spec' := by
  obtain ⟨busy, state5, run5, cpu5, engaged5, running5, pending, free, -⟩ :=
    agrees.reach_exec1 shifts defined
  cases busy with
  | false =>
      obtain ⟨rest, data⟩ := engaged5.of_free (free rfl)
      have engaged5 : Engaged (Option.map Pending.request none) spec.mem (budget none + 1) state5 :=
        .rest rest data
      obtain ⟨state6, step6, cpu6, stopSim6, engaged6⟩ :=
        agrees.next_exec1 defined cpu5 engaged5 (by simp) running5 (by simp [dmp])
      exact ⟨state6, _, runFor_snoc run5 step6, .branch dmp,
        agrees.jump (Or.inr ⟨dmp, rfl⟩) cpu6 stopSim6 engaged6⟩
  | true =>
      obtain ⟨state6, step6, cpu6, stopSim6, engaged6⟩ :=
        agrees.next_exec1 defined cpu5 engaged5 (fun _ => id) running5 (by simp [dmp])
      have opcode : (operandsRead spec.word state.spro.toCpuRegisters).opcode = .dmp := dmp
      have polled : (inExec1 shifts true spec.word state.spro.toCpuRegisters).aluout = 0#32 := by
        simp [inExec1, exec0Aluout, opcode, intOfBool]
      have named : (inExec1 shifts true spec.word state.spro.toCpuRegisters).opcode = .dmp := dmp
      simp only [exec1Regs, exec1Pc, named, polled, ne_eq, not_true_eq_false, if_false] at cpu6
      rw [if_neg (by simp [dmp])] at engaged6
      refine ⟨state6, _, runFor_snoc run5 step6, .poll dmp (pending rfl), ?_⟩
      exact {
        stopSim := by simp [stopSim6, dmp, defined.running]
        fetch0 := fun _ => congrArg CpuRegisters.ctlState cpu6
        pc := by
          rw [← agrees.pc]
          exact congrArg CpuRegisters.pc cpu6
        r := (congrArg CpuRegisters.r cpu6).trans agrees.r
        engaged := engaged6 }

theorem Agrees.dma (agrees : Agrees state spec) (defined : spec.Defined)
    (dma : spec.fields.opcode = .dma) :
    ∃ state' spec', runFor (next shifts) 6 state = some state' ∧ Step shifts spec spec' ∧
      Agrees state' spec' := by
  obtain ⟨busy, state5, run5, cpu5, engaged5, running5, -⟩ :=
    agrees.reach_exec1 shifts defined
  have named : (inExec1 shifts busy spec.word state.spro.toCpuRegisters).opcode = .dma := dma
  cases waits : state5.spro.dma.busy with
  | false =>
      obtain ⟨rest, data⟩ := engaged5.of_free waits
      have request : Request.mk ((Fields.ofWord spec.word).operand0 state.spro.r)
          (state.spro.r (Fields.ofWord spec.word).dst)
          ((Fields.ofWord spec.word).operand1 state.spro.r) = spec.request := by
        rw [agrees.r]
        rfl
      have started := next_exec1_start rest data running5 cpu5 defined.notIdle dma
        (by
          rw [request]
          exact defined.request dma)
      rw [request] at started
      obtain ⟨state6, step6, cpu6, stopSim6, engaged6⟩ := started
      refine ⟨state6, _, runFor_snoc run5 step6, .start dma (defined.request dma), ?_⟩
      exact {
        stopSim := stopSim6
        fetch0 := fun _ => congrArg CpuRegisters.ctlState cpu6
        pc := by
          rw [← agrees.pc]
          exact congrArg CpuRegisters.pc cpu6
        r := (congrArg CpuRegisters.r cpu6).trans agrees.r
        engaged := engaged6.mono (by simp only [budget]; omega) }
  | true =>
      obtain ⟨state6, step6, cpu6, stopSim6, engaged6⟩ :=
        agrees.next_exec1 defined cpu5 engaged5 (fun _ => id) running5 (fun _ => waits)
      simp only [exec1Regs, exec1Pc, named, waits, if_true] at cpu6
      rw [if_neg (by simp [dma])] at engaged6
      have pending : spec.pending.isSome = true := by
        have busy := engaged5.isSome_of_busy waits
        rwa [Option.isSome_map] at busy
      refine ⟨state6, _, runFor_snoc run5 step6, .wait dma pending, ?_⟩
      exact {
        stopSim := by simp [stopSim6, dma, defined.running]
        fetch0 := fun _ => congrArg CpuRegisters.ctlState cpu6
        pc := (congrArg CpuRegisters.pc cpu6).trans agrees.pc
        r := (congrArg CpuRegisters.r cpu6).trans agrees.r
        engaged := engaged6 }

end Instruction

/-- Six clocks of the machine are one instruction of the specification. -/
theorem implements_step (shifts : Shifts) :
    Implements (next shifts) 6 (Step shifts) Atomic.State.Defined Agrees := by
  intro state spec agrees defined
  rcases defined.known with basic | dma | dmp | jin
  · by_cases hlt : spec.fields.opcode = .hlt
    · exact agrees.halt defined hlt
    · exact agrees.execute defined basic hlt
  · exact agrees.dma defined dma
  · exact agrees.dmp defined dmp
  · exact agrees.jin defined jin

/-! ## Whole runs -/

theorem exists_first_agrees (shifts : Shifts) (image : Image) :
    ∃ state, next shifts (afterReset image) = some state ∧ Agrees state (Atomic.init image) := by
  obtain ⟨state, step, both⟩ := exists_first_clock shifts image
  exact ⟨state, step, both.running, fun _ => both.fetch0, both.pc, both.r,
    .rest both.rest both.data⟩

/-- What a program sees of the machine: everything but the words of a transfer that may be
under way. -/
structure Shows (state : State) (spec : Atomic.State) : Prop where
  stopSim : state.stopSim = spec.halted
  pc : state.spro.pc = spec.pc
  r : state.spro.r = spec.regs
  data : ∀ addr, spec.Readable addr → state.sram.data addr = spec.mem addr

theorem Agrees.shows {state : State} {spec : Atomic.State} (agrees : Agrees state spec) :
    Shows state spec where
  stopSim := agrees.stopSim
  pc := agrees.pc
  r := agrees.r
  data := by
    intro addr readable
    apply agrees.engaged.data_eq
    intro active member
    obtain ⟨pending, some, rfl⟩ := Option.mem_map.mp member
    exact readable pending some

section Run

variable {shifts : Shifts} {image : Image}

/-- The machine gets to what the specification makes inevitable. -/
theorem reaches_inevitable {goal : Atomic.State → Prop}
    (inevitable : Inevitable (Step shifts) Atomic.State.Defined goal (Atomic.init image)) :
    ∃ count state spec, runFor (next shifts) (1 + 6 * count) (afterReset image) = some state ∧
      Shows state spec ∧ goal spec := by
  obtain ⟨first, step, agrees⟩ := exists_first_agrees shifts image
  obtain ⟨count, state, spec, run, -, agrees', holds⟩ :=
    (implements_step shifts).reaches inevitable agrees
  refine ⟨count, state, spec, ?_, agrees'.shows, holds⟩
  exact runFor_trans (by rw [runFor_one, step]) run

end Run

/-- A program whose instructions keep away from the words of every transfer that may be under
way sees each transfer happen at once, whenever the engine gets the memory port. -/
theorem transfers_are_atomic (shifts : Shifts) (image : Image) (count : Nat)
    (defined : ∀ before < count, ∀ spec,
      Steps (Step shifts) before (Atomic.init image) spec → spec.Defined ∨ spec.halted = true) :
    ∃ taken ≤ count, ∃ state spec,
      runFor (next shifts) (1 + 6 * taken) (afterReset image) = some state ∧
      Steps (Step shifts) taken (Atomic.init image) spec ∧
      (taken = count ∨ spec.halted = true) ∧ Shows state spec := by
  obtain ⟨first, step, agrees⟩ := exists_first_agrees shifts image
  obtain ⟨taken, bound, state, spec, run, steps, agrees', outcome⟩ :=
    (implements_step shifts).follows count defined agrees
  refine ⟨taken, bound, state, spec, ?_, steps, outcome, agrees'.shows⟩
  exact runFor_trans (by rw [runFor_one, step]) run

/-- 0: ADD r2, r0, 100; 1: ADD r3, r0, 101; 2: DMA r3, r2, 3; 3: LD r4, [50];
4: ST r4, [51]; 7: HLT; 50: 7; 100: 11, 12, 13. -/
def besideImage : Image := fun addr =>
  if addr = 0#16 then 0x00810064#32
  else if addr = 1#16 then 0x00c10065#32
  else if addr = 2#16 then 0x14d10003#32
  else if addr = 3#16 then 0x11010032#32
  else if addr = 4#16 then 0x12210033#32
  else if addr = 7#16 then 0x30000000#32
  else if addr = 50#16 then 7#32
  else if addr = 100#16 then 11#32
  else if addr = 101#16 then 12#32
  else if addr = 102#16 then 13#32
  else 0#32

/-- Three words are copied by one place while the CPU loads and stores. -/
theorem transfers_are_atomic_beside :
    ∃ state, runFor (next Shifts.x86) 49 (afterReset besideImage) = some state ∧
      state.stopSim = true ∧
      [51#16, 101#16, 102#16, 103#16].map state.sram.data = [7#32, 11#32, 12#32, 13#32] := by
  have known : ∀ before < 8, ∀ spec ∈ ahead (Atomic.State.offers Shifts.x86) before
      (Atomic.init besideImage), spec.Defined := by decide +kernel
  have last : ∀ spec ∈ ahead (Atomic.State.offers Shifts.x86) 8 (Atomic.init besideImage),
      spec.halted = true ∧ spec.pending.isNone = true ∧
        [51#16, 101#16, 102#16, 103#16].map spec.mem = [7#32, 11#32, 12#32, 13#32] := by
    decide +kernel
  have listed {count : Nat} {spec : Atomic.State}
      (steps : Steps (Step Shifts.x86) count (Atomic.init besideImage) spec) :
      spec ∈ ahead (Atomic.State.offers Shifts.x86) count (Atomic.init besideImage) :=
    steps.mem_ahead Atomic.mem_offers
  obtain ⟨taken, bound, state, spec, run, steps, outcome, shows⟩ :=
    transfers_are_atomic Shifts.x86 besideImage 8 fun before early spec steps =>
      Or.inl (known before early spec (listed steps))
  have all : taken = 8 := by
    rcases outcome with all | halted
    · exact all
    · by_contra fewer
      have running := (known taken (by omega) spec (listed steps)).running
      simp [running] at halted
  subst all
  obtain ⟨halted, idle, mem⟩ := last spec (listed steps)
  have same : state.sram.data = spec.mem := by
    funext addr
    apply shows.data
    intro pending member
    rw [Option.isNone_iff_eq_none.mp idle] at member
    cases member
  exact ⟨state, run, shows.stopSim.trans halted, same ▸ mem⟩

end SimpleProcessor.MultiCycle
