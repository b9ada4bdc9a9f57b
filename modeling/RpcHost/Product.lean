/-!
# Name and version
-/

namespace RpcHost
namespace Product

def name : String := "minirpc"
def version : String := "0.1.0"

end Product
end RpcHost
