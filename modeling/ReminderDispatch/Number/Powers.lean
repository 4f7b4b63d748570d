/-!
# Powers

Powers of two and of ten.
-/

namespace ReminderDispatch

/-- Two to a power, which is the number of values of so many bits. -/
def twoTo (exponent : Nat) : Nat := Nat.pow 2 exponent

/-- Ten to a power, which is the number of values of so many decimal digits. -/
def tenTo (exponent : Nat) : Nat := Nat.pow 10 exponent

end ReminderDispatch
