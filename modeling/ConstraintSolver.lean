import ConstraintSolver.Type
import ConstraintSolver.TypeVariable
import ConstraintSolver.Simplify
import ConstraintSolver.System
import ConstraintSolver.Operations
import ConstraintSolver.Scope
import ConstraintSolver.Change
import ConstraintSolver.Undo
import ConstraintSolver.Pruning
import ConstraintSolver.Attempt
import ConstraintSolver.Solution
import ConstraintSolver.Disjunction
import ConstraintSolver.Partition
import ConstraintSolver.Solve
import ConstraintSolver.Binding
import ConstraintSolver.Interface
import ConstraintSolver.Locator
import ConstraintSolver.Requirement
import ConstraintSolver.DynamicLookup
import ConstraintSolver.ActorIsolation
import ConstraintSolver.AccessedStorage
import ConstraintSolver.GraphWalk
import ConstraintSolver.Reachable
import ConstraintSolver.UnionFind
import ConstraintSolver.Classes
import ConstraintSolver.Reapply
import ConstraintSolver.DesignatedTypes
import ConstraintSolver.Selection
