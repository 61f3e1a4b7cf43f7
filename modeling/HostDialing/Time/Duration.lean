import HostDialing.Text.Numeral

/-!
# Durations

A duration is a whole number of seconds in sixty-four bits and a remainder in nanoseconds. Its text
is exact: the value in the largest unit that does not exceed it, with as many decimals as it has.
-/

namespace HostDialing

structure Duration where
  secs : UInt64
  nanos : Nat
  nanos_lt : nanos < 1000000000 := by omega
deriving DecidableEq

def Duration.zero : Duration := ⟨0, 0, by decide⟩

def Duration.ofSeconds (n : UInt64) : Duration := ⟨n, 0, by decide⟩

def Duration.ofMillis (n : UInt64) : Duration :=
  ⟨n / 1000, n.toNat % 1000 * 1000000, by omega⟩

def Duration.totalNanos (d : Duration) : Nat := d.secs.toNat * 1000000000 + d.nanos

def Duration.isZero (d : Duration) : Bool := d.totalNanos == 0

/-- The whole milliseconds of a duration; the largest word stands for any number beyond it. -/
def Duration.wholeMillis (d : Duration) : UInt64 :=
  let n := d.totalNanos / 1000000
  if h : n < UInt64.size then UInt64.ofNatLT n h else 0xffffffffffffffff

/-- The decimals of `part` units of which `10 ^ width` make one, without zeros at the end. -/
def decimals (width part : Nat) : List Char :=
  let digits := decimal part
  let all := List.replicate (width - digits.length) '0' ++ digits
  match all.reverse.dropWhile (· == '0') with
  | [] => []
  | kept => '.' :: kept.reverse

/-- A number of units, of which `10 ^ width` parts make one. -/
def inUnits (whole width part : Nat) (unit : List Char) : List Char :=
  decimal whole ++ decimals width part ++ unit

def Duration.chars (d : Duration) : List Char :=
  if d.secs ≠ 0 then inUnits d.secs.toNat 9 d.nanos ['s']
  else if 1000000 ≤ d.nanos then
    inUnits (d.nanos / 1000000) 6 (d.nanos % 1000000) ['m', 's']
  else if 1000 ≤ d.nanos then inUnits (d.nanos / 1000) 3 (d.nanos % 1000) ['µ', 's']
  else inUnits d.nanos 0 0 ['n', 's']

/-- A duration in seconds, or in the first of `ms`, `µs` and `ns` that does not exceed it. -/
def Duration.text (d : Duration) : String := String.ofList d.chars

theorem Duration.eq_of_totalNanos_eq {d e : Duration} (h : d.totalNanos = e.totalNanos) :
    d = e := by
  have hd := d.nanos_lt
  have he := e.nanos_lt
  unfold totalNanos at h
  have hs : d.secs = e.secs := UInt64.toNat_inj.1 (by omega)
  have hn : d.nanos = e.nanos := by rw [hs] at h; omega
  cases d; cases e; simp_all

end HostDialing
