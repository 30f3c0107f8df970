import Brainfuck.Expectation
import Brainfuck.Main
import Brainfuck.Proofs.BundleRun
import Brainfuck.Proofs.Exits
import Brainfuck.Proofs.Simulation
import Brainfuck.Service.Request
import Brainfuck.Proofs.History
import Brainfuck.Proofs.Endings
import Brainfuck.Proofs.Lifecycle
import Brainfuck.Proofs.Shutdown
import Brainfuck.Proofs.Atomicity
import Brainfuck.Proofs.Waiting
import Brainfuck.Proofs.LoopLimit
import Brainfuck.Proofs.Filler
import Brainfuck.Proofs.Reuse
import Brainfuck.Proofs.Delegation
import Brainfuck.Proofs.ExitCodes
import Brainfuck.Proofs.Interruption
import Brainfuck.Proofs.Signals
import Brainfuck.Proofs.Balance
import Brainfuck.Proofs.TapeRing
import Brainfuck.Proofs.LineReading
import Brainfuck.Proofs.InputCodes
import Brainfuck.Proofs.Enlargement
import Brainfuck.Proofs.Printing
import Brainfuck.Proofs.ErrorTrees
import Brainfuck.Proofs.FirstCharacter
import Brainfuck.Proofs.LoopStack
import Brainfuck.Proofs.SearchPath
import Brainfuck.Proofs.PidFiles
import Brainfuck.Proofs.Annotations
