import Quda.Blas.FloatVector
import Quda.Blas.Functor
import Quda.Blas.Field
import Quda.Blas.ReduceCore
import Quda.Blas.Reduce
import Quda.Blas.LaunchGeometry
import Quda.Blas.VectorWidth
import Quda.Blas.Reference
import Quda.Blas.PureReductions
import Quda.Blas.FusedUpdates
import Quda.Blas.HeavyQuark
import Quda.Blas.CG3Updates
import Quda.Blas.ReduceBuffers
import Quda.Dirac.Wilson
import Quda.Dirac.Clover
import Quda.DomainWall.M5InvDagger
import Quda.DomainWall.TensorCore
import Quda.DomainWall.GridLoop
import Quda.Multigrid.BlockOrthogonalize
