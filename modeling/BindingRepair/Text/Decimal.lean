
namespace BindingRepair.Text

def decimalNat (n : Nat) : String :=
  String.ofList (Nat.toDigits 10 n)

def decimal : Int → String
  | .ofNat n => decimalNat n
  | .negSucc n => "-" ++ decimalNat (n + 1)

def padded (width n : Nat) : String :=
  let digits := Nat.toDigits 10 n
  String.ofList (List.replicate (width - digits.length) '0' ++ digits)

end BindingRepair.Text
