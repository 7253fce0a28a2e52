import SimpleProcessor.LoaderAgreement
import SimpleProcessor.MultiCycle.Trace
import SimpleProcessor.Pipeline.Trace
import SimpleProcessor.Programs

/-!
# From a program to its trace

The three simulators read the file that the assembler has written, run it, and leave
a trace file each.  For a portable program these are one and the same text.
-/

namespace SimpleProcessor

open Transition Stdio
open Iss (Loaded fieldsAt)

theorem MultiCycle.load_nonnegative {mem : Image} {lastAddr : Nat} (positive : 1 ≤ lastAddr)
    (room : lastAddr < 65536)
    (nonnegative : ((written mem lastAddr).getLastD 0#32).msb = false) :
    MultiCycle.load (Asm.output mem lastAddr) =
      .ok (.accepted (imageOf (written mem lastAddr)) lastAddr) := by
  rw [MultiCycle.load_output mem positive room, (imageOf_withSign_iff mem room).mpr nonnegative]

/-- A portable program whose loads name registers, assembled into a file whose last word is not
negative, leaves the same trace on all three simulators: they load the same memory, count the
same lines, and print the same text up to the end of the run. -/
theorem same_trace_files (shifts : Shifts) (mem : Image) (lastAddr : Nat) (program : List Word)
    (programName : Text) (btb : Pipeline.Btb) (k : Nat) (iss : Iss.State)
    (positive : 1 ≤ lastAddr) (room : lastAddr < 65536)
    (nonnegative : ((written mem lastAddr).getLastD 0#32).msb = false)
    (portable : Portable program) (fits : program.length ≤ lastAddr) (loaded : Loaded program mem)
    (named : ∀ index < program.length, (fieldsAt program index).opcode = .ld →
      1#3 < (fieldsAt program index).dst)
    (bounded : btb.Bounded)
    (run : runFor (Iss.next shifts) k (Iss.init (imageOf (written mem lastAddr))) = some iss)
    (halted : iss.halted = true)
    (stores : ∀ visited ∈ past (Iss.next shifts) k (Iss.init (imageOf (written mem lastAddr))),
      visited.StoresBehind program.length) :
    ∃ image trace, Iss.load (Asm.output mem lastAddr) = .ok (.accepted image lastAddr) ∧
      trace = Iss.traceFile shifts programName lastAddr k image ∧
      (MultiCycle.load (Asm.output mem lastAddr) = .ok (.accepted image lastAddr) ∧
        ∃ clocks state,
          runFor (MultiCycle.next shifts) clocks (MultiCycle.afterReset image) = some state ∧
            state.stopSim = true ∧
            MultiCycle.traceFile shifts programName lastAddr clocks image = trace) ∧
      (Pipeline.load (Asm.output mem lastAddr) = .ok (.accepted (image, image) lastAddr) ∧
        ∃ clocks state,
          runFor (Pipeline.next shifts) clocks (Pipeline.afterReset image btb) = some state ∧
            state.stopSim = true ∧
            Pipeline.traceFile shifts programName lastAddr clocks image btb = trace) := by
  let image := imageOf (written mem lastAddr)
  have loaded' : Loaded program image := by
    intro addr inside
    rw [← loaded addr inside]
    exact imageOf_written mem (Nat.lt_of_lt_of_le inside fits)
  have ordinary := portable.ordinary_run loaded' run stores
  have placed := portable.placed_run loaded' run stores
  have scheduled := portable.scheduled_run loaded' run stores
  have alike : ∀ visited ∈ past (Iss.next shifts) k (Iss.init image),
      visited.fields.opcode = .ld → 1#3 < visited.fields.dst := by
    intro visited member
    obtain ⟨within, running⟩ :=
      (Iss.within_of_run portable.toClosed loaded' run stores).2 visited member
    have inside := within.inside running
    rw [inside.fields]
    exact named visited.pc.toNat inside.pc
  have traces := (Iss.processorTraces_eq_iff fun visited member => (ordinary visited member).1).mpr
    alike
  have multiCycle := MultiCycle.load_nonnegative positive room nonnegative
  obtain ⟨state, reached, stopped⟩ := portable.multi_cycle_stops loaded' run halted stores
  obtain ⟨clocks, state', reached', ended, trace⟩ :=
    Pipeline.exists_traceFile bounded run halted placed fun _ state visited _ member follows =>
      Pipeline.Registers.lossless_of_noStall
        (Pipeline.noStall_of_scheduled run halted placed scheduled member follows)
  refine ⟨image, _, Iss.load_output mem (Nat.le_of_lt room), rfl,
    ⟨multiCycle, _, state, reached, stopped.stopped, ?_⟩,
    ⟨Pipeline.load_eq_accepted.mpr ⟨_, multiCycle, rfl⟩, clocks, state', reached',
      ended.stopped, ?_⟩⟩
  · rw [MultiCycle.traceFile_eq programName lastAddr run ordinary, traces]
    rfl
  · rw [trace, traces]
    rfl

/-- The file of the program that doubles a word, up to the word. -/
theorem same_trace_files_double :
    ∃ image clocks,
      Pipeline.load (Asm.output (doubleImage 21#32) 7) = .ok (.accepted (image, image) 7) ∧
      Pipeline.traceFile Shifts.x86 "double.bin".toList 7 clocks image .zero =
        Iss.traceFile Shifts.x86 "double.bin".toList 7 5 image := by
  have executed : (runFor (Iss.next Shifts.x86) 5
      (Iss.init (imageOf (written (doubleImage 21#32) 7)))).map Iss.State.halted =
        some true := by decide +kernel
  obtain ⟨iss, run, halted⟩ := Option.map_eq_some_iff.mp executed
  obtain ⟨image, trace, -, rfl, -, pipeline, clocks, -, -, -, same⟩ :=
    same_trace_files Shifts.x86 (doubleImage 21#32) 7 doubleProgram "double.bin".toList .zero 5
      iss (by decide) (by decide) (by decide) (by decide +kernel) (by decide)
      (fun _ bound => if_pos bound) (by decide +kernel) (fun _ taken => absurd rfl taken) run
      halted (by decide +kernel)
  exact ⟨image, clocks, pipeline, same⟩

end SimpleProcessor
