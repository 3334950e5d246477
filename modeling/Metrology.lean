import Metrology.Declaration.Implementation
import Metrology.Outline
import Metrology.Proofs.CheckedQuantity.Accumulation
import Metrology.Proofs.CheckedQuantity.Conversion
import Metrology.Proofs.CheckedQuantity.Mismatch
import Metrology.Proofs.CheckedQuantity.Parts
import Metrology.Proofs.CheckedQuantity.Power
import Metrology.Proofs.CheckedQuantity.Reachable
import Metrology.Proofs.Declaration.Attributes
import Metrology.Proofs.Identity.Cancellation
import Metrology.Proofs.Identity.ExactFactor
import Metrology.Proofs.Identity.SameScale
import Metrology.Proofs.Magnitude.Power
import Metrology.Proofs.Quantity.Calculation
import Metrology.Proofs.Quantity.RoundTrip
import Metrology.Proofs.Ratio.Reciprocal
import Metrology.Proofs.Ratio.WordArithmetic
import Metrology.Proofs.Unit.NetPower
import Metrology.Proofs.Unit.Operands
import Metrology.Proofs.Unit.Symbol
import Metrology.Quantity
import Metrology.Quantity.Exchange
import Metrology.Refusal
