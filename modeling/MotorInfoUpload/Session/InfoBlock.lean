import MotorInfoUpload.DataFormat
import Mathlib.Data.List.Flatten

/-! The grammar of a realtime data unit: six time bytes and a sequence of info
blocks. This is the statement of what the filter is for; it mentions neither the
filter nor a buffer. -/

namespace MotorInfoUpload

/-- The number of four-byte codes that a fault count announces: the two marked
values stand for none. -/
def faultCount (n : UInt8) : Nat := if n = 0xff ∨ n = 0xfe then 0 else n.toNat

inductive FaultList : List UInt8 → Prop where
  | mk (n : UInt8) (codes : List UInt8) (counted : codes.length = 4 * faultCount n) :
      FaultList (n :: codes)

/-- A subsystem count byte that announces `count` subsystems. -/
inductive Announces : UInt8 → Nat → Prop where
  | none (marked : s = 0xff ∨ s = 0xfe) : Announces s 0
  | some (unmarked : ¬ (s = 0xff ∨ s = 0xfe)) (lower : 1 ≤ s.toNat) (upper : s.toNat ≤ 250) :
      Announces s s.toNat

inductive VoltageSubsystem : List UInt8 → Prop where
  | mk (head : List UInt8) (m : UInt8) (cells : List UInt8) (headSize : head.length = 9)
      (lower : 1 ≤ m.toNat) (upper : m.toNat ≤ 200) (counted : cells.length = 2 * m.toNat) :
      VoltageSubsystem (head ++ m :: cells)

/-- The probe number is big-endian. -/
inductive TemperatureSubsystem : List UInt8 → Prop where
  | mk (number high low : UInt8) (probes : List UInt8)
      (lower : 1 ≤ high.toNat * 256 + low.toNat) (upper : high.toNat * 256 + low.toNat ≤ 65531)
      (counted : probes.length = high.toNat * 256 + low.toNat) :
      TemperatureSubsystem (number :: high :: low :: probes)

/-- One info block, its type byte first. -/
inductive InfoBlock : List UInt8 → Prop where
  | vehicle (data : List UInt8) (size : data.length = 20) : InfoBlock (1 :: data)
  | motor (data : List UInt8) (size : data.length = 13) : InfoBlock (2 :: data)
  | location (data : List UInt8) (size : data.length = 9) : InfoBlock (5 :: data)
  | extreme (data : List UInt8) (size : data.length = 14) : InfoBlock (6 :: data)
  | alarm (head : List UInt8) (size : head.length = 5) (battery : FaultList faults₁)
      (motor : FaultList faults₂) (engine : FaultList faults₃) (other : FaultList faults₄) :
      InfoBlock (7 :: (head ++ faults₁ ++ faults₂ ++ faults₃ ++ faults₄))
  | voltage (s : UInt8) (subsystems : List (List UInt8)) (counted : Announces s subsystems.length)
      (each : ∀ subsystem ∈ subsystems, VoltageSubsystem subsystem) :
      InfoBlock (8 :: s :: subsystems.flatten)
  | temperature (s : UInt8) (subsystems : List (List UInt8))
      (counted : Announces s subsystems.length)
      (each : ∀ subsystem ∈ subsystems, TemperatureSubsystem subsystem) :
      InfoBlock (9 :: s :: subsystems.flatten)

theorem InfoBlock.ne_nil (block : InfoBlock bytes) : bytes ≠ [] := by
  cases block <;> exact List.cons_ne_nil _ _

def forwarded (block : List UInt8) : Bool := block.head? != some 8 && block.head? != some 9

/-- A data unit taken apart into its time bytes and its blocks. -/
structure DataUnit (bytes time : List UInt8) (blocks : List (List UInt8)) : Prop where
  timeSize : time.length = 6
  whole : bytes = time ++ blocks.flatten
  each : ∀ block ∈ blocks, InfoBlock block

/-- The data unit that is left of the blocks after filtering. -/
def filtered (time : List UInt8) (blocks : List (List UInt8)) : List UInt8 :=
  time ++ (blocks.filter forwarded).flatten

theorem filtered_length_le (unit : DataUnit bytes time blocks) :
    (filtered time blocks).length ≤ bytes.length := by
  have fewer : (blocks.filter forwarded).Sublist blocks := List.filter_sublist
  have kept : (blocks.filter forwarded).flatten.length ≤ blocks.flatten.length :=
    fewer.flatten.length_le
  simp only [filtered, unit.whole, List.length_append]
  omega

end MotorInfoUpload
