/-!
# Waveforms of voice notes

A voice note shows a picture of its loudness: 64 samples of a parabola, highest in the middle, each
raised by some jitter. All arithmetic is in binary64, and samples are cut down to whole bytes.

## Main definitions

* `jitter w`: the jitter that 64 random bits make, from 0 to below 40
* `sample i w`: the `i`-th sample, with the jitter of `w`
* `waveform ws`: the samples for a list of random words
-/

namespace MessageGateway.Waveform

/-- The number of samples. -/
def length : Nat := 64

/-- The height of the parabola. -/
def peak : Float := 50.0

/-- What the jitter stays below. -/
def jitterBound : Float := 40.0

/-- The jitter of a random word, of which the upper 52 bits count. -/
def jitter (w : UInt64) : Float :=
  (w >>> 12).toFloat / 4503599627370496.0 * jitterBound

/-- The height of the parabola over the `i`-th sample. -/
def envelope (i : Nat) : Float :=
  let n := (i.toFloat - 31.5).abs / 32.0
  (1.0 - n * n) * peak

/-- The `i`-th sample, with the jitter of `w`. -/
def sample (i : Nat) (w : UInt64) : UInt8 :=
  (envelope i + jitter w).toUInt8

/-- The samples for a list of random words; missing words count as zero. -/
def waveform (ws : List UInt64) : List UInt8 :=
  (List.range length).map fun i => sample i (ws.getD i 0)

@[simp] theorem length_waveform (ws : List UInt64) : (waveform ws).length = 64 := by
  simp [waveform, length]

end MessageGateway.Waveform
