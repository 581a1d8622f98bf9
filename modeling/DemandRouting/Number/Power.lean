namespace DemandRouting.Number

-- Algebra brings a reading of `b ^ n` of its own. By these instances a definition means the same
-- whether or not that is imported.
@[default_instance 20001]
instance (priority := 1100) natPower : Pow Nat Nat := @instPowNat Nat instNatPowNat

@[default_instance 20000]
instance (priority := 1100) intPower : Pow Int Nat := @instPowNat Int Int.instNatPow

end DemandRouting.Number
