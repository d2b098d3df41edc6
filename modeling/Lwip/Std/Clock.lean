import Mathlib.Init

/-! Readings of `std::chrono::steady_clock`, in nanoseconds. -/

namespace Lwip

abbrev Time := Int

/-- `std::chrono::seconds(1)` -/
def second : Time := 1000000000

/-- `std::chrono::milliseconds(1)` -/
def millisecond : Time := 1000000

end Lwip
